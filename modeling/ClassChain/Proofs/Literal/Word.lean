import ClassChain.Literal.Token
import ClassChain.Proofs.Literal.Telling

/-!
# What is told of words

Where text has no opening square brackets, neither have its quoted texts, and what is told of a word that cannot be read is mild
(`mild_words`): it names a character of the text, or a bracket that is open there.
-/

namespace ClassChain.Literal

/-- A reader of text that has a mild fault at worst and leaves a rest of the text. -/
def Reads {α : Type} (cs : List Char) : Except Fault (α × List Char) → Prop := Safe Fault.Mild fun r => r.2 <:+ cs

section

variable {α : Type} {cs ds : List Char} {x : Except Fault (α × List Char)} {n : Numeral} {kind : Notation}

theorem Reads.of_suffix (h : Reads ds x) (hsuffix : ds <:+ cs) : Reads cs x := h.imp fun _ hrest => hrest.trans hsuffix

theorem Reads.after {rest : Except Fault (List Char)} {f : List Char → Except Fault (α × List Char)}
    (h : Safe Fault.Mild (· <:+ cs) rest) (hf : ∀ ds, Reads ds (f ds)) : Reads cs (rest >>= f) :=
  Safe.bind h fun ds hds => (hf ds).of_suffix hds

/-! ## Numbers -/

theorem mild_digitFault (c : Char) : (digitFault kind c).Mild := by
  unfold digitFault
  split
  · rename_i hdigit
    rintro rfl
    exact absurd hdigit (by decide)
  · trivial

theorem safe_tailDigits {isDigit : Char → Bool} {fault : Char → Fault} (hfault : ∀ c, (fault c).Mild) (cs : List Char) :
    Safe Fault.Mild (· <:+ cs) (tailDigits isDigit fault cs) := by
  cases h : tailDigits isDigit fault cs with
  | ok rest => exact suffix_of_tailDigits h
  | error other =>
    fun_induction tailDigits isDigit fault cs with
    | case1 => cases h
    | case2 => cases h; exact hfault _
    | case3 c cs hc ih => exact ih h
    | case4 => cases h; exact hfault _
    | case5 c cs _ _ hc ih => exact ih h
    | case6 => cases h

theorem safe_baseDigits {isDigit : Char → Bool} {fault : Char → Fault} (hfault : ∀ c, (fault c).Mild) (cs : List Char) :
    Safe Fault.Mild (· <:+ cs) (baseDigits isDigit fault cs) := by
  have hsafe (ds : List Char) : Safe Fault.Mild (· <:+ ds) (tailDigits isDigit fault ds) := safe_tailDigits hfault ds
  unfold baseDigits
  split
  · rename_i c rest
    split
    · exact (hsafe rest).imp fun _ h => h.trans ⟨['_', c], rfl⟩
    · exact hfault c
  · rename_i c rest _
    split
    · exact (hsafe rest).imp fun _ h => h.trans ⟨[c], rfl⟩
    · exact hfault c
  · exact hfault '_'

theorem safe_decimalDigits (cs : List Char) : Safe Fault.Mild (· <:+ cs) (decimalDigits cs) := by
  have hfault : ∀ _ : Char, (Fault.badNumber .decimal).Mild := fun _ => trivial
  exact safe_tailDigits hfault cs

theorem reads_numberEnd (rest : List Char) : Reads rest (numberEnd kind n rest) := by
  unfold numberEnd
  split
  · exact List.suffix_rfl
  · trivial

theorem reads_decimalEnd (cs : List Char) : Reads cs (decimalEnd n cs) := by
  unfold decimalEnd
  split
  · split
    · exact (reads_numberEnd _).of_suffix (List.suffix_cons _ _)
    · exact reads_numberEnd _
  · exact List.suffix_rfl

theorem reads_exponentEnd (cs : List Char) : Reads cs (exponentEnd n cs) := by
  have hdigits (ds : List Char) : Reads ds (do decimalEnd .fraction (← decimalDigits ds)) :=
    .after (safe_decimalDigits ds) reads_decimalEnd
  unfold exponentEnd
  split
  · rename_i e rest
    split
    · split
      · rename_i c more
        split
        · split
          · exact (hdigits more).of_suffix ⟨[e, c], rfl⟩
          · trivial
        · split
          · exact (hdigits more).of_suffix ⟨[e, c], rfl⟩
          · exact reads_numberEnd _
      · exact reads_numberEnd _
    · exact reads_decimalEnd _
  · exact List.suffix_rfl

theorem reads_fractionEnd (cs : List Char) : Reads cs (fractionEnd cs) := by
  unfold fractionEnd
  split
  · exact .after (safe_decimalDigits cs) reads_exponentEnd
  · exact reads_exponentEnd cs

theorem reads_wholeEnd (digits : Nat) (zeroed : Bool) (cs : List Char) : Reads cs (wholeEnd digits zeroed cs) := by
  unfold wholeEnd
  split
  · exact (reads_fractionEnd _).of_suffix (List.suffix_cons _ _)
  · split
    · trivial
    · exact reads_exponentEnd _
  · split
    · trivial
    · exact List.suffix_rfl

theorem reads_basedNumber (cs : List Char) : Reads cs (basedNumber kind cs) := by
  unfold basedNumber
  refine .after (safe_baseDigits mild_digitFault cs) fun rest => ?_
  split
  · split
    · exact mild_digitFault _
    · exact reads_numberEnd _
  · exact List.suffix_rfl

theorem reads_zeroNumber (cs : List Char) : Reads cs (zeroNumber cs) := by
  have hbased (c : Char) (rest : List Char) (kind : Notation) : Reads ('0' :: c :: rest) (basedNumber kind rest) :=
    (reads_basedNumber rest).of_suffix ⟨['0', c], rfl⟩
  unfold zeroNumber
  split
  · exact hbased ..
  · exact hbased ..
  · exact hbased ..
  · exact hbased ..
  · exact hbased ..
  · exact hbased ..
  · exact .after (safe_decimalDigits cs) fun _ => reads_wholeEnd ..

theorem reads_number (cs : List Char) : Reads cs (number cs) := by
  unfold number
  split
  · exact (reads_fractionEnd _).of_suffix (List.suffix_cons _ _)
  · exact reads_zeroNumber _
  · exact .after (safe_decimalDigits cs) fun _ => reads_wholeEnd ..

end

/-! ## Quoted texts -/

section

variable {cs content rest : List Char} {quote : Char} {isBlock : Bool}

theorem subset_of_closing? (h : closing? quote isBlock cs = some (content, rest)) : content ⊆ cs ∧ rest ⊆ cs := by
  fun_induction closing? quote isBlock cs generalizing content with
  | case1 => cases h
  | case2 c cs ih =>
    obtain ⟨⟨inner, after⟩, h, heq⟩ := Option.map_eq_some_iff.mp h
    cases heq
    obtain ⟨hcontent, hrest⟩ := ih h
    exact ⟨List.cons_subset_cons _ (List.cons_subset_cons _ hcontent), fun d hd => by simp [hrest hd]⟩
  | case3 c cs _ hc =>
    cases h
    exact ⟨List.nil_subset _, List.subset_cons_self _ _⟩
  | case4 c cs _ hc hblock =>
    cases h
    exact ⟨List.nil_subset _, fun d hd => List.mem_cons_of_mem _ (List.mem_of_mem_drop hd)⟩
  | case5 => cases h
  | case6 c cs _ _ _ _ ih =>
    obtain ⟨⟨inner, after⟩, h, heq⟩ := Option.map_eq_some_iff.mp h
    cases heq
    obtain ⟨hcontent, hrest⟩ := ih h
    exact ⟨List.cons_subset_cons _ hcontent, List.Subset.trans hrest (List.subset_cons_self _ _)⟩

theorem suffix_of_opening {isBytes isRaw isUnicode isFormatted : Bool} {q : Quotation} {body : List Char}
    (h : opening isBytes isRaw isUnicode isFormatted cs = some (q, quote, body)) : body <:+ cs := by
  fun_induction opening isBytes isRaw isUnicode isFormatted cs with
  | case1 => cases h
  | case2 => cases h; exact List.suffix_cons _ _
  | case7 => cases h
  | case3 _ _ _ _ c cs _ _ _ ih | case4 _ _ _ _ c cs _ _ _ _ ih | case5 _ _ _ _ c cs _ _ _ _ _ ih
  | case6 _ _ _ _ c cs _ _ _ _ _ _ ih => exact (ih h).trans (List.suffix_cons c cs)

theorem safe_quotation (q : Quotation) (line : Nat) (h : Unbracketed cs) :
    Safe Fault.Mild (fun r => Unbracketed r.1.content ∧ Unbracketed r.2) (quotation q quote line cs) := by
  have hbody : ∀ isBlock : Bool, (if isBlock then cs.drop 2 else cs) ⊆ cs := fun isBlock => by
    cases isBlock
    · exact List.Subset.refl cs
    · exact List.drop_subset 2 cs
  unfold quotation
  dsimp only
  split
  · rename_i content rest hclosing
    obtain ⟨hcontent, hrest⟩ := subset_of_closing? hclosing
    exact ⟨h.of_subset (List.Subset.trans hcontent (hbody _)), h.of_subset (List.Subset.trans hrest (hbody _))⟩
  · trivial

end

/-! ## Words -/

/-- A quoted text has no opening square brackets; other words are not told. -/
def Word.Mild : Word → Prop
  | .text q => Unbracketed q.content
  | _ => True

/-- No open bracket is a square one. -/
def Place.Mild (p : Place) : Prop := ∀ b ∈ p.brackets, b.1 ≠ '['

/-- Words are mild, and if they end before their time, so is the fault. -/
structure Tokens.Mild (words : Tokens) : Prop where
  tokens : ∀ t ∈ words.tokens, t.word.Mild
  fault : ∀ stop, words.stop? = some stop → stop.fault.Mild
  bracket : ∀ stop, words.stop? = some stop → ∀ b, stop.bracket? = some b → b.1 ≠ '['

section

variable {cs : List Char} {c : Char} {p : Place} {words : Tokens} {t : Token} {fault : Fault}

theorem safe_bracketsAfter {brackets : List (Char × Nat)} (line : Nat) (hc : c ≠ '[') (h : ∀ b ∈ brackets, b.1 ≠ '[') :
    Safe Fault.Mild (fun after => ∀ b ∈ after, b.1 ≠ '[') (bracketsAfter brackets line c) := by
  unfold bracketsAfter
  split
  · split
    · trivial
    · exact List.forall_mem_cons.mpr ⟨hc, h⟩
  · split
    · split
      · exact hc
      · obtain ⟨hopened, hbelow⟩ := List.forall_mem_cons.mp h
        split
        · exact hbelow
        · exact ⟨hc, hopened⟩
    · exact h

theorem mild_of_nameFault? {name : List Char} (h : Unbracketed name) (hfault : nameFault? name = some fault) : fault.Mild := by
  unfold nameFault? at hfault
  split at hfault
  · cases hfault
  · obtain ⟨hc, hcs⟩ := unbracketed_cons.mp h
    obtain ⟨d, hd, rfl⟩ := Option.map_eq_some_iff.mp hfault
    split at hd
    · rintro rfl
      exact hcs (List.mem_of_find?_eq_some hd)
    · obtain rfl := Option.some.inj hd
      exact hc

theorem suffix_symbol (c : Char) (cs : List Char) : (symbol c cs).2 <:+ c :: cs := by
  unfold symbol
  split
  · exact List.drop_suffix _ _
  · exact List.suffix_cons _ _

/-- The word at a place of text without opening square brackets is mild, and so is the place after it. -/
theorem safe_wordAt (hp : p.Mild) (h : Unbracketed (c :: cs)) :
    Safe Fault.Mild (fun r => r.1.word.Mild ∧ r.2.1.Mild ∧ Unbracketed r.2.2) (wordAt p c cs) := by
  unfold wordAt
  split
  · rename_i q quote body hopening
    refine Safe.bind (safe_quotation q p.line (h.of_suffix (suffix_of_opening hopening))) fun r hr => ?_
    exact ⟨hr.1, hp, hr.2⟩
  · split
    · refine Safe.bind (reads_number (c :: cs)) fun r hr => ?_
      exact ⟨trivial, hp, h.of_suffix hr⟩
    · split
      · dsimp only
        split
        · rename_i hfault
          exact mild_of_nameFault? (h.of_subset (List.takeWhile_subset _)) hfault
        · exact ⟨trivial, hp, (unbracketed_cons.mp h).2.of_suffix (List.dropWhile_suffix _)⟩
      · have hc : c ≠ '[' := (unbracketed_cons.mp h).1
        have hrest : Unbracketed (symbol c cs).2 := h.of_suffix (suffix_symbol c cs)
        generalize symbol c cs = r at hrest
        obtain ⟨s, rest⟩ := r
        dsimp only
        split
        · refine Safe.bind (safe_bracketsAfter p.line hc hp) fun brackets hafter => ?_
          split
          · exact hc
          · exact ⟨trivial, hafter, hrest⟩
        · split
          · exact hc
          · exact ⟨trivial, hp, hrest⟩

theorem Tokens.mild_of_all_read {tokens : List Token} (h : ∀ t ∈ tokens, t.word.Mild) : Tokens.Mild ⟨tokens, none⟩ where
  tokens := h
  fault := fun _ hstop => by cases hstop
  bracket := fun _ hstop => by cases hstop

theorem Tokens.Mild.cons (hword : t.word.Mild) (h : words.Mild) : (words.cons t).Mild where
  tokens := List.forall_mem_cons.mpr ⟨hword, h.tokens⟩
  fault := h.fault
  bracket := h.bracket

theorem Place.Mild.stop (hp : p.Mild) (hfault : fault.Mild) (isUrgent : Bool) : (p.stop fault isUrgent).Mild where
  tokens := by simp [Place.stop]
  fault := fun stop hstop => by
    obtain rfl := Option.some.inj hstop
    exact hfault
  bracket := fun stop hstop b hb => by
    obtain rfl := Option.some.inj hstop
    exact hp b (List.mem_of_mem_head? hb)

theorem Place.Mild.halt (hp : p.Mild) (hfault : fault.Mild) : (p.halt fault).Mild := by
  unfold Place.halt
  split
  · rename_i opened line below hbrackets
    have hopened : (Fault.unclosed opened).Mild := hp (opened, line) (hbrackets ▸ List.mem_cons_self)
    exact hp.stop hopened false
  · exact hp.stop hfault false

theorem Place.Mild.finish (hp : p.Mild) : p.finish.Mild := by
  unfold Place.finish
  split
  · exact Tokens.mild_of_all_read fun t ht => List.mem_singleton.mp ht ▸ trivial
  · exact hp.halt trivial

theorem safe_nextLine (cs : List Char) : Safe Fault.Mild (· <:+ cs) (nextLine cs) := by
  unfold nextLine
  split
  · trivial
  · exact List.suffix_cons _ _
  · trivial

theorem safe_marginFrom (line : Nat) (m : Margin) (first : Nat) (cs : List Char) :
    Safe Fault.Mild (·.2.2 <:+ cs) (marginFrom line m first cs) := by
  fun_induction marginFrom line m first cs with
  | case1 line m first cs ih | case2 line m first cs ih | case3 line m first cs ih =>
    exact ih.imp fun _ h => h.trans (List.suffix_cons _ _)
  | case4 line m first c cs ih => exact ih.imp fun _ h => h.trans ⟨['\\', '\n'], rfl⟩
  | case5 line m first cs => exact (safe_nextLine cs).map fun _ h => h.trans (List.suffix_cons _ _)
  | case6 => exact List.suffix_rfl

theorem suffix_dropComment (cs : List Char) : dropComment cs <:+ cs := by
  unfold dropComment
  split
  · exact (List.dropWhile_suffix _).trans (List.suffix_cons _ _)
  · exact List.suffix_rfl

/-- The words of text without opening square brackets are mild. -/
theorem mild_tokensWithin (steps : Nat) (hp : p.Mild) (h : Unbracketed cs) : (tokensWithin steps p cs).Mild := by
  -- every step goes on with a rest of the text, and only a word changes which brackets are open
  induction steps generalizing p cs with
  | zero => exact Tokens.mild_of_all_read fun t ht => by cases ht
  | succ steps ih =>
    unfold tokensWithin
    split
    · have hmargin := safe_marginFrom p.line {} 0 cs
      split
      · rename_i fault heq
        rw [heq] at hmargin
        exact hp.halt hmargin
      · rename_i m line rest heq
        rw [heq] at hmargin
        have hrest : Unbracketed rest := h.of_suffix hmargin
        dsimp only
        split
        · split
          · rename_i after hcomment
            exact ih hp (unbracketed_cons.mp (hrest.of_suffix (hcomment ▸ suffix_dropComment rest))).2
          · exact Place.Mild.finish hp
        · split
          · exact ih hp hrest
          · split
            · have hsetIn : Fault.setIn.Mild := trivial
              exact Place.Mild.stop hp hsetIn false
            · split
              · exact .cons trivial (ih hp hrest)
              · exact ih hp hrest
    · have hinner := h.of_suffix ((suffix_dropComment _).trans (List.dropWhile_suffix isInnerBlank))
      split
      · exact hp.finish
      · rename_i rest heq
        have hrest : Unbracketed rest := (unbracketed_cons.mp (heq ▸ hinner)).2
        dsimp only
        split
        · exact .cons trivial (ih hp hrest)
        · exact ih hp hrest
      · rename_i rest heq
        have hline := safe_nextLine rest
        split
        · rename_i after hafter
          rw [hafter] at hline
          exact ih hp ((unbracketed_cons.mp (heq ▸ hinner)).2.of_suffix hline)
        · rename_i fault hfault
          rw [hfault] at hline
          exact hp.halt hline
      · rename_i c rest _ _ heq
        have hword := safe_wordAt hp (heq ▸ hinner)
        split
        · rename_i token next after hafter
          rw [hafter] at hword
          obtain ⟨htoken, hnext, hrest⟩ := hword
          exact (ih hnext hrest).cons htoken
        · rename_i fault hfault
          rw [hfault] at hword
          exact hp.stop hword true

end

/-- The words of a source without opening square brackets are mild. -/
theorem mild_words {s : Source} (h : Unbracketed s.text) : s.words.Mild :=
  mild_tokensWithin _ (fun _ hb => by cases hb) h

end ClassChain.Literal

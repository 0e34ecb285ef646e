import ClassChain.Literal.Reading
import ClassChain.Proofs.Literal.Format
import ClassChain.Proofs.Literal.Hint

/-!
# What is told of text that is no literal

Text without opening square brackets that is no literal is told of without one (`mild_of_read`): by induction over how deep texts
with expressions stand in each other, each read by the one grammar, and over the tree of an expression.
-/

namespace ClassChain.Literal

section

variable {s : Source} {words : Tokens} {fault : Fault} {fault? : Source → Option Fault}

/-! ## Trees -/

theorem Tokens.Mild.toldFault (hwords : words.Mild) (hfault : fault.Mild) (last? : Option Token) :
    (words.toldFault last? fault).Mild := by
  unfold Tokens.toldFault
  split
  · rename_i stop hstop
    split
    · exact hwords.fault stop hstop
    · split
      · rename_i hbracket
        split
        · exact hwords.bracket stop hstop _ hbracket
        · exact hfault
      · exact hfault
  · exact hfault

theorem Tokens.Mild.toldHint (hwords : words.Mild) (hfault : fault.Mild) (last? : Option Token) :
    (words.toldHint last? fault).Mild := by
  unfold Tokens.toldHint
  split
  · exact hfault
  · exact hwords.toldFault hfault last?

theorem mild_faultAt (hfault : fault.Mild) (s : Source) (site? : Option Token) : (s.faultAt site? fault).Mild := by
  have hlost (isLost : Bool) : (if isLost then Fault.misplaced else fault).Mild := by
    cases isLost
    · exact hfault
    · trivial
  exact hlost _

theorem mild_start (reach : Nat) : Progress.Mild ({ reach } : Progress Rule) := fun key outcome hknown => by
  rw [Std.HashMap.getElem?_empty] at hknown
  cases hknown

/-- What is told of text without opening square brackets that is no expression is mild. -/
theorem safe_tree {grammar : Grammar Rule} (hgrammar : ∀ r, (grammar.pattern r).Mild) (h : Unbracketed s.text) (rule : Rule) :
    Safe Fault.Mild (fun _ => True) (s.tree grammar rule) := by
  have hwords := mild_words h
  have hfound (i : Nat) (t : Token) (ht : s.words.tokens.toArray[i]? = some t) : t.word.Mild :=
    hwords.tokens t (Array.mem_of_getElem? ht |> Array.mem_toList_iff.mpr)
  have hread (depth : Nat) (seeksMistakes : Bool) (reach : Nat) :
      Mildly (grammar.readWithin s.words s.words.tokens.toArray depth 0 seeksMistakes (.rule rule) 0 { reach }) :=
    mildly_readWithin hgrammar hwords hfound depth 0 seeksMistakes (p := .rule rule) trivial 0 (mild_start reach)
  unfold Source.tree
  dsimp only
  split
  · trivial
  · rename_i fault progress heq
    have hfirst := hread (depthFor s.words.tokens.toArray.size) false 0
    rw [heq] at hfirst
    exact hfirst.outcome
  · rename_i fault site? progress heq
    have hfirst := hread (depthFor s.words.tokens.toArray.size) false 0
    rw [heq] at hfirst
    exact hwords.toldHint (mild_faultAt hfirst.outcome s site?) _
  · rename_i first _ _ _ _
    split
    · rename_i fault progress heq
      have hsecond := hread (depthFor s.words.tokens.toArray.size) true first.reach
      rw [heq] at hsecond
      exact hsecond.outcome
    · rename_i fault site? progress heq
      have hsecond := hread (depthFor s.words.tokens.toArray.size) true first.reach
      rw [heq] at hsecond
      exact hwords.toldHint (mild_faultAt hsecond.outcome s site?) _
    · split
      · trivial
      · have hplain : Fault.plain.Mild := unbracketed_ofList (by decide)
        exact hwords.toldFault (mild_faultAt hplain s _) _

theorem Fault.Mild.embed (h : fault.Mild) : fault.embed.Mild := by
  cases fault <;> exact h

theorem mild_of_textsFault? (hfault : ∀ s : Source, Unbracketed s.text → ∀ fault, fault? s = some fault → fault.Mild)
    {trees : List Tree} (htrees : ∀ t ∈ trees, t.Mild) (h : textsFault? s fault? trees = some fault) : fault.Mild := by
  refine mild_of_joinedFault? hfault (fun r hr => ?_) h
  obtain ⟨t, ht, heq⟩ := List.mem_filterMap.mp hr
  split at heq
  · rename_i token
    obtain ⟨q, hq, rfl⟩ := Option.map_eq_some_iff.mp heq
    have htoken : token.word.Mild := htrees _ ht
    unfold Word.text? at hq
    split at hq
    · rename_i hword
      obtain rfl := Option.some.inj hq
      rwa [hword] at htoken
    · cases hq
  · cases heq

/-- What is told of text without opening square brackets that is no expression is mild if what is told of texts in it is. -/
theorem safe_tree_of_textsFault? {texts : Source} (h : Unbracketed s.text)
    (hfault : ∀ s : Source, Unbracketed s.text → ∀ fault, fault? s = some fault → fault.Mild) (rule : Rule) :
    Safe Fault.Mild (fun _ => True) (s.tree (grammar (textsFault? texts fault?)) rule) :=
  safe_tree (mild_grammar fun _ _ htrees h => mild_of_textsFault? hfault htrees h) h rule

/-- What is wrong with an expression in a text is mild. -/
theorem mild_of_innerFault? (depth : Nat) (h : Unbracketed s.text) (hfault : innerFault? depth s = some fault) : fault.Mild := by
  induction depth generalizing s fault with
  | zero => cases hfault
  | succ depth ih =>
    have htext : Unbracketed ('(' :: s.text ++ [')', '\n']) :=
      unbracketed_append.mpr ⟨unbracketed_cons.mpr ⟨by decide, h⟩, by decide⟩
    unfold innerFault? at hfault
    dsimp only at hfault
    split at hfault
    · cases hfault
    · rename_i told htold
      cases hfault
      have hsafe : Safe Fault.Mild (fun _ : Tree => True) (.error told) := by
        rw [← htold]
        exact safe_tree_of_textsFault? htext (fun s hs fault h => ih hs h) .starExpressions
      exact Fault.Mild.embed hsafe

theorem unbracketed_unify {cs : List Char} (h : Unbracketed cs) : Unbracketed (Text.unify cs) := fun hmem =>
  h ((Text.mem_unify (by decide) (by decide) cs).mp hmem)

/-- What is told of text that is no expression is mild. -/
theorem safe_treeOf {text : List Char} (h : Unbracketed text) : Safe Fault.Mild (fun _ => True) (treeOf text) :=
  safe_tree_of_textsFault? (unbracketed_unify h) (fun _ hs _ hfault => mild_of_innerFault? _ hs hfault) .whole

/-! ## Values -/

/-- What a refusal is told with has no opening square brackets. -/
def Refusal.Mild : Refusal → Prop
  | .unreadable fault => fault.Mild
  | .changeable kind => Unbracketed kind.toList
  | _ => True

theorem Refusal.Mild.message {refusal : Refusal} (h : refusal.Mild) : Unbracketed refusal.message.toList := by
  cases refusal with
  | unreadable fault => exact Fault.Mild.message h
  | changeable kind =>
    unfold Refusal.message
    simp only [String.toList_append, unbracketed_append]
    refine ⟨⟨?_, h⟩, ?_⟩ <;> exact unbracketed_ofList (by decide)
  | _ => exact unbracketed_ofList (by decide)

/-- What can be changed in a value is told without opening square brackets. -/
def Value.Mild (v : Value) : Prop := ∀ kind, v.changeable? = some kind → Unbracketed kind.toList

theorem Value.Mild.keep {v : Value} (h : v.Mild) : Safe Refusal.Mild (fun _ => True) v.keep := by
  unfold Value.keep
  split
  · rename_i kind hkind
    exact h kind hkind
  · trivial

theorem mild_other_some {kind : String} (h : Unbracketed kind.toList) : (Value.other (some kind)).Mild := fun _ hkind =>
  Option.some.inj hkind ▸ h

theorem mild_number (n : Numeral) : (if n = .imaginary then Value.imaginary else .real).Mild := by
  split <;> exact fun kind hkind => by cases hkind

theorem mild_of_signedNumber? {t : Tree} {v : Value} (h : signedNumber? t = some v) : v.Mild := by
  unfold signedNumber? at h
  split at h
  · cases h
    exact mild_number _
  · cases h
    exact mild_number _
  · cases h

mutual

theorem safe_valueOf (t : Tree) : Safe Refusal.Mild Value.Mild (valueOf t) := by
  have hconstant : (Value.other none).Mild := fun kind hkind => by cases hkind
  have hset : (Value.other (some "set")).Mild := mild_other_some (unbracketed_ofList (by decide))
  have hdictionary : (Value.other (some "dict")).Mild := mild_other_some (unbracketed_ofList (by decide))
  unfold valueOf
  split
  · split
    · trivial
    · exact hconstant
  · exact mild_number _
  · split
    · exact hconstant
    · trivial
  · split
    · exact hconstant
    · trivial
  · trivial
  · split
    · trivial
    · exact hconstant
  · rename_i parts
    refine Safe.bind (safe_valuesOf parts) fun vs hvs kind hkind => ?_
    obtain ⟨v, hv, hchangeable⟩ := List.exists_of_findSome?_eq_some hkind
    exact hvs v hv kind hchangeable
  · rename_i parts
    exact Safe.bind (safe_keepAll parts) fun _ _ => hset
  · rename_i parts
    exact Safe.bind (safe_keepKeys parts) fun _ _ => hdictionary
  · exact hset
  · split
    · split
      · exact mild_number .imaginary
      · trivial
    · trivial
  · split
    · rename_i v hv
      exact mild_of_signedNumber? hv
    · trivial
  · trivial

theorem safe_valuesOf (ts : List Tree) : Safe Refusal.Mild (fun vs => ∀ v ∈ vs, v.Mild) (valuesOf ts) := by
  cases ts with
  | nil => exact List.forall_mem_nil _
  | cons t ts =>
    unfold valuesOf
    exact Safe.bind (safe_valueOf t) fun v hv => Safe.bind (safe_valuesOf ts) fun vs hvs => List.forall_mem_cons.mpr ⟨hv, hvs⟩

theorem safe_keepAll (ts : List Tree) : Safe Refusal.Mild (fun _ => True) (keepAll ts) := by
  cases ts with
  | nil => trivial
  | cons t ts =>
    unfold keepAll
    exact Safe.bind (safe_valueOf t) fun v hv => Safe.bind hv.keep fun _ _ => safe_keepAll ts

theorem safe_keepKeys (ts : List Tree) : Safe Refusal.Mild (fun _ => True) (keepKeys ts) := by
  unfold keepKeys
  split
  · trivial
  · rename_i key value ts
    exact Safe.bind (safe_valueOf key) fun v hv => Safe.bind (safe_valueOf value) fun _ _ => Safe.bind hv.keep fun _ _ =>
      safe_keepKeys ts
  · trivial

end

/-- What is told of text without opening square brackets that is no literal has none either. -/
theorem mild_of_read {text : List Char} {refusal : Refusal} (h : Unbracketed text) (hread : read text = .error refusal) :
    refusal.Mild := by
  unfold read at hread
  split at hread
  · cases hread
    trivial
  · split at hread
    · split at hread
      · cases hread
        trivial
      · rename_i tree _ _
        have hsafe := safe_valueOf tree
        rwa [hread] at hsafe
    · rename_i fault hfault
      cases hread
      have hsafe := safe_treeOf (h.of_suffix (List.dropWhile_suffix fun c => c == ' ' || c == '\t'))
      rwa [hfault] at hsafe

end

end ClassChain.Literal

import ClassChain.Literal.Formatted
import ClassChain.Proofs.Literal.Word

/-!
# What is told of quoted texts

What is told of the escapes of a quoted text is mild whatever the text is. What is told of a text with expressions is mild if the text
has no opening square brackets and what is told of the expressions in it is mild (`mild_of_formattedFault?`).
-/

namespace ClassChain.Literal

namespace Quotation

section

variable {cs inner rest : List Char} {c : Char} {q : Quotation} {fault : Fault}

/-! ## Escapes -/

theorem mild_of_digitFault? {place count : Nat} {missing : String} (hmissing : Unbracketed missing.toList)
    (h : digitFault? place count missing cs = some fault) : fault.Mild := by
  unfold digitFault? at h
  dsimp only at h
  split at h
  · cases h
    exact hmissing
  · split at h
    · cases h
      exact unbracketed_ofList (by decide)
    · cases h

theorem mild_of_nameFault? {place : Nat} (h : nameFault? place cs = some fault) : fault.Mild := by
  have hmalformed : Unbracketed "malformed \\N character escape".toList := unbracketed_ofList (by decide)
  unfold nameFault? at h
  dsimp only at h
  split at h
  · split at h
    · cases h
      exact hmalformed
    · split at h
      · cases h
        exact hmalformed
      · split at h
        · cases h
        · cases h
          exact unbracketed_ofList (by decide)
  · cases h
    exact hmalformed

theorem unbracketed_of_lookup {count : Nat} {missing : String} (h : digitEscapes.lookup c = some (count, missing)) :
    Unbracketed missing.toList := by
  unfold digitEscapes at h
  simp only [List.lookup_cons, List.lookup_nil] at h
  split at h
  · cases h
    exact unbracketed_ofList (by decide)
  · split at h
    · cases h
      exact unbracketed_ofList (by decide)
    · split at h
      · cases h
        exact unbracketed_ofList (by decide)
      · cases h

theorem mild_of_escapeFault? {place : Nat} (h : escapeFault? place cs = some fault) : fault.Mild := by
  fun_induction escapeFault? place cs with
  | case1 => cases h
  | case2 place c cs fault? ih =>
    rw [Option.orElse_eq_or, Option.or_eq_some_iff] at h
    rcases h with h | ⟨-, h⟩
    · unfold fault? at h
      split at h
      · rename_i count missing hlookup
        exact mild_of_digitFault? (unbracketed_of_lookup hlookup) h
      · split at h
        · exact mild_of_nameFault? h
        · cases h
    · exact ih h
  | case3 place cs c _ ih => exact ih h

theorem mild_of_byteFault? {place : Nat} (h : byteFault? place cs = some fault) : fault.Mild := by
  fun_induction byteFault? place cs with
  | case1 => cases h
  | case2 => cases h; trivial
  | case3 place c cs _ ih => exact ih h
  | case4 place cs c _ ih => exact ih h

theorem mild_of_textFault? (h : textFault? cs = some fault) : fault.Mild := mild_of_escapeFault? h

/-- What is wrong with a quoted text that holds no expressions is mild. -/
theorem mild_of_fault? (h : q.fault? = some fault) : fault.Mild := by
  unfold fault? at h
  split at h
  · split at h
    · cases h
      trivial
    · split at h
      · cases h
      · exact mild_of_byteFault? h
  · split at h
    · cases h
    · exact mild_of_textFault? h

/-! ## Expressions -/

theorem safe_expression {passed : Nat} {quote? : Option (Char × Bool)} {brackets : List Char} (hbrackets : '[' ∉ brackets)
    (h : Unbracketed cs) :
    Safe FormatFault.Mild (fun r => Unbracketed r.1 ∧ Unbracketed r.2) (expression passed quote? brackets cs) := by
  induction cs generalizing passed quote? brackets with
  | nil =>
    unfold expression
    split
    · trivial
    · exact fun hc => hbrackets (hc ▸ List.mem_cons_self)
    · trivial
  | cons c cs ih =>
    obtain ⟨hc, hcs⟩ := unbracketed_cons.mp h
    have goOn (passed : Nat) (quote? : Option (Char × Bool)) {brackets : List Char} (hbrackets : '[' ∉ brackets) :
        Safe FormatFault.Mild (fun r => Unbracketed r.1 ∧ Unbracketed r.2)
          ((expression passed quote? brackets cs).map fun r => (c :: r.1, r.2)) :=
      (ih hbrackets hcs).map fun r hr => ⟨unbracketed_cons.mpr ⟨hc, hr.1⟩, hr.2⟩
    unfold expression
    dsimp only
    split
    · exact goOn _ _ hbrackets
    · split
      · trivial
      · split
        · exact goOn _ _ hbrackets
        · split
          · split
            · exact goOn _ _ hbrackets
            · exact goOn _ _ hbrackets
          · exact goOn _ _ hbrackets
    · split
      · trivial
      · split
        · split
          · exact goOn _ _ hbrackets
          · exact goOn _ _ hbrackets
        · split
          · split
            · trivial
            · exact goOn _ _ (unbracketed_cons.mpr ⟨hc, hbrackets⟩)
          · split
            · trivial
            · split
              · exact goOn _ _ hbrackets
              · split
                · exact ⟨List.not_mem_nil, h⟩
                · split
                  · split
                    · exact hc
                    · obtain ⟨hopened, hbelow⟩ := unbracketed_cons.mp hbrackets
                      split
                      · exact goOn _ _ hbelow
                      · exact ⟨hc, hopened⟩
                  · exact goOn _ _ hbrackets

theorem suffix_afterEquals (cs : List Char) : afterEquals cs <:+ cs := by
  unfold afterEquals
  split
  · exact (List.dropWhile_suffix _).trans (List.suffix_cons _ _)
  · exact List.suffix_rfl

theorem safe_afterConversion (cs : List Char) : Safe FormatFault.Mild (· <:+ cs) (afterConversion cs) := by
  unfold afterConversion
  split
  · trivial
  · split
    · exact (List.suffix_cons _ _).trans (List.suffix_cons _ _)
    · trivial
  · exact List.suffix_rfl

theorem mild_of_emptyFault? {told : FormatFault} (hrest : Unbracketed rest) (h : emptyFault? inner rest = some told) :
    told.Mild := by
  unfold emptyFault? at h
  split at h
  · cases h
    intro hbracket
    exact hrest (List.mem_of_mem_head? (Option.mem_filter_iff.mp hbracket).1)
  · cases h

/-! ## Whole texts -/

theorem suffix_piece (isRaw isOuter : Bool) (reading : Reading) (cs : List Char) :
    (piece isRaw isOuter reading cs).rest <:+ cs := by
  obtain ⟨border, h⟩ := append_of_piece isRaw isOuter reading cs
  exact ⟨_, h⟩

/-- What is wrong with the expressions of a text is mild if what is wrong with each is. -/
theorem safe_afterPieces {isRaw : Bool} {fault? : (place inner : List Char) → Option Fault}
    (hfault : ∀ place inner, Unbracketed inner → ∀ fault, fault? place inner = some fault → fault.Mild) (count depth : Nat)
    (h : Unbracketed cs) : Safe Fault.Mild Unbracketed (afterPieces isRaw fault? count depth cs) := by
  induction count generalizing depth cs with
  | zero => exact h
  | succ count ih =>
    have hpiece := h.of_suffix (suffix_piece isRaw (depth == 0) .text cs)
    unfold afterPieces
    dsimp only
    split
    · trivial
    · split
      · rename_i told htold
        split at htold
        · cases htold
        · exact mild_of_textFault? htold
      · split
        · split
          · exact List.not_mem_nil
          · trivial
        · exact ih depth hpiece
        · exact hpiece
        · split
          · trivial
          · refine Safe.bind ((safe_expression List.not_mem_nil hpiece).mapError fun _ h => h) fun r hr => ?_
            split
            · rename_i told htold
              rw [Option.orElse_eq_or, Option.or_eq_some_iff] at htold
              rcases htold with htold | ⟨-, htold⟩
              · obtain ⟨inside, hinside, rfl⟩ := Option.map_eq_some_iff.mp htold
                exact mild_of_emptyFault? hr.2 hinside
              · exact hfault _ _ hr.1 told htold
            · refine Safe.bind ((safe_afterConversion (afterEquals r.2)).mapError fun _ h => h) fun after hafter => ?_
              have hrest : Unbracketed after := hr.2.of_suffix (hafter.trans (suffix_afterEquals r.2))
              split
              · exact ih depth (unbracketed_cons.mp hrest).2
              · -- the format is read by the same steps, one expression deeper
                exact Safe.bind (ih (depth + 1) (unbracketed_cons.mp hrest).2) fun more hmore => ih depth hmore
              · trivial

end

end Quotation

section

variable {s : Source} {q : Quotation} {t : Token} {fault? : Source → Option Fault} {fault : Fault}

/-- What is wrong with a text with expressions is mild if what is wrong with the expressions is. -/
theorem mild_of_formattedFault? (hfault : ∀ s : Source, Unbracketed s.text → ∀ fault, fault? s = some fault → fault.Mild)
    (hq : Unbracketed q.content) (h : q.formattedFault? s t fault? = some fault) : fault.Mild := by
  unfold Quotation.formattedFault? at h
  dsimp only at h
  split at h
  · cases h
  · rename_i told htold
    obtain rfl := Option.some.inj h
    have hsafe : Safe Fault.Mild Unbracketed (.error told) := by
      rw [← htold]
      exact Quotation.safe_afterPieces (fun place inner hinner fault hfaulty => hfault _ hinner fault hfaulty) _ _ hq
    exact hsafe

/-- What is wrong with quoted texts next to each other is mild if what is wrong with expressions is. -/
theorem mild_of_joinedFault? (hfault : ∀ s : Source, Unbracketed s.text → ∀ fault, fault? s = some fault → fault.Mild)
    {texts : List (Quotation × Token)} (htexts : ∀ r ∈ texts, Unbracketed r.1.content) {before? : Option Quotation}
    (h : joinedFault? s fault? before? texts = some fault) : fault.Mild := by
  induction texts generalizing before? with
  | nil => cases h
  | cons r more ih =>
    obtain ⟨hq, hmore⟩ := List.forall_mem_cons.mp htexts
    unfold joinedFault? at h
    dsimp only at h
    rw [Option.orElse_eq_or, Option.or_eq_some_iff] at h
    rcases h with h | ⟨-, h⟩
    · split at h
      · cases h
      · obtain ⟨own, hown, rfl⟩ := Option.map_eq_some_iff.mp h
        split
        · trivial
        · exact Quotation.mild_of_fault? hown
    · split at h
      · cases h
        trivial
      · rw [Option.orElse_eq_or, Option.or_eq_some_iff] at h
        rcases h with h | ⟨-, h⟩
        · split at h
          · exact mild_of_formattedFault? hfault hq h
          · cases h
        · exact ih hmore h

end

end ClassChain.Literal

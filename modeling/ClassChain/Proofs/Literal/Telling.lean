import ClassChain.Literal.Fault

/-!
# What is told of literals

What is told of a fault has no opening square bracket in it if nothing that the fault is told with has one (`Fault.Mild.message`).
What fails and what does not is looked at together (`Safe`), so that a reader is followed step by step (`Safe.bind`).
-/

namespace ClassChain

namespace Text

variable {c : Char}

/-- The digits of a number are digits of its base. -/
theorem exists_digitChar_of_mem_toDigits {base n : Nat} (hbase : 1 < base) (h : c ∈ base.toDigits n) :
    ∃ k < base, c = Nat.digitChar k := by
  induction n using Nat.strongRecOn with
  | _ n ih =>
    rw [Nat.toDigits_eq_if hbase] at h
    split at h
    · rename_i hlt
      exact ⟨n, hlt, List.mem_singleton.mp h⟩
    · rename_i hle
      rcases List.mem_append.mp h with h | h
      · exact ih (n / base) (Nat.div_lt_self (by omega) hbase) h
      · exact ⟨n % base, Nat.mod_lt n (by omega), List.mem_singleton.mp h⟩

theorem exists_digitChar_of_mem_hex {width n : Nat} (h : c ∈ hex width n) : ∃ k < 16, c = Nat.digitChar k := by
  rcases List.mem_append.mp h with h | h
  · exact ⟨0, by decide, List.eq_of_mem_replicate h⟩
  · exact exists_digitChar_of_mem_toDigits (by decide) h

end Text

namespace Literal

/-! ## Text without opening square brackets -/

/-- No opening square bracket stands in it. -/
def Unbracketed (cs : List Char) : Prop := '[' ∉ cs

instance (cs : List Char) : Decidable (Unbracketed cs) := inferInstanceAs (Decidable ('[' ∉ cs))

section

variable {cs ds : List Char} {c : Char}

@[simp] theorem unbracketed_append : Unbracketed (cs ++ ds) ↔ Unbracketed cs ∧ Unbracketed ds := by
  simp only [Unbracketed, List.mem_append, not_or]

@[simp] theorem unbracketed_cons : Unbracketed (c :: cs) ↔ c ≠ '[' ∧ Unbracketed cs := by
  simp only [Unbracketed, List.mem_cons, not_or, ne_eq, eq_comm (a := c)]

theorem Unbracketed.of_subset (h : Unbracketed cs) (hsub : ds ⊆ cs) : Unbracketed ds := fun hmem => h (hsub hmem)

theorem Unbracketed.of_suffix (h : Unbracketed cs) (hsuffix : ds <:+ cs) : Unbracketed ds := h.of_subset hsuffix.subset

theorem unbracketed_ofList (h : Unbracketed cs) : Unbracketed (String.ofList cs).toList := by
  rwa [String.toList_ofList]

theorem unbracketed_char (h : c ≠ '[') : Unbracketed c.toString.toList := by
  rw [Char.toString, String.toList_singleton]
  exact unbracketed_cons.mpr ⟨h, by decide⟩

theorem unbracketed_toString (n : Nat) : Unbracketed (toString n).toList := by
  intro h
  rw [Nat.toString_eq_ofList_toDigits, String.toList_ofList] at h
  exact absurd (Nat.isDigit_of_mem_toDigits (by decide) (by decide) h) (by decide)

theorem unbracketed_hex (width n : Nat) : Unbracketed (Text.hex width n) := by
  have hdigit : ∀ k < 16, '[' ≠ Nat.digitChar k := by decide
  intro h
  obtain ⟨k, hk, heq⟩ := Text.exists_digitChar_of_mem_hex h
  exact hdigit k hk heq

theorem unbracketed_codeOf (c : Char) : Unbracketed (codeOf c).toList := by
  have hdigit : ∀ k < 16, (Nat.digitChar k).toUpper ≠ '[' := by decide
  have hdigits : Unbracketed ((Text.hex 4 c.toNat).map Char.toUpper) := fun h => by
    obtain ⟨d, hd, heq⟩ := List.mem_map.mp h
    obtain ⟨k, hk, rfl⟩ := Text.exists_digitChar_of_mem_hex hd
    exact hdigit k hk heq
  rw [codeOf, String.toList_append, String.toList_ofList (l := List.map _ _)]
  exact unbracketed_append.mpr ⟨unbracketed_ofList (by decide), hdigits⟩

end

/-! ## Mild faults -/

/-- What a fault is told with has no opening square brackets. -/
def FormatFault.Mild : FormatFault → Prop
  | .unmatched bracket => bracket ≠ '['
  | .crossed closing opening => closing ≠ '[' ∧ opening ≠ '['
  | .noExpression before? => before? ≠ some '['
  | _ => True

/-- What a fault is told with has no opening square brackets. -/
def Fault.Mild : Fault → Prop
  | .misread hint => Unbracketed hint.toList
  | .badCharacter c => c ≠ '['
  | .badDigit digit _ => digit ≠ '['
  | .unopened closing => closing ≠ '['
  | .crossed closing opening _ => closing ≠ '[' ∧ opening ≠ '['
  | .unclosed opening => opening ≠ '['
  | .badEscape _ _ cause => Unbracketed cause.toList
  | .formatted fault => fault.Mild
  | .embedded fault => fault.Mild
  | _ => True

theorem unbracketed_name (kind : Notation) : Unbracketed kind.name.toList := by
  cases kind <;> exact unbracketed_ofList (by decide)

/-- What is told of a mild fault has none either. -/
theorem FormatFault.Mild.message {fault : FormatFault} (h : fault.Mild) : Unbracketed fault.message.toList := by
  cases fault with
  | unmatched bracket =>
    unfold FormatFault.message
    simp only [String.toList_append, unbracketed_append]
    refine ⟨⟨?_, unbracketed_char h⟩, ?_⟩ <;> exact unbracketed_ofList (by decide)
  | crossed closing opening =>
    unfold FormatFault.message
    simp only [String.toList_append, unbracketed_append]
    refine ⟨⟨⟨⟨?_, unbracketed_char h.1⟩, ?_⟩, unbracketed_char h.2⟩, ?_⟩ <;> exact unbracketed_ofList (by decide)
  | noExpression before? =>
    cases before? with
    | none => exact unbracketed_ofList (by decide)
    | some c =>
      unfold FormatFault.message
      simp only [String.toList_append, unbracketed_append]
      refine ⟨⟨?_, unbracketed_char fun hc => h (congrArg some hc)⟩, ?_⟩ <;> exact unbracketed_ofList (by decide)
  | _ => exact unbracketed_ofList (by decide)

/-- What is told of a mild fault has none either. -/
theorem Fault.Mild.message {fault : Fault} (h : fault.Mild) : Unbracketed fault.message.toList := by
  induction fault with
  | misread hint => exact h
  | badCharacter c =>
    unfold Fault.message
    split
    · simp only [String.toList_append, unbracketed_append]
      refine ⟨⟨⟨⟨?_, unbracketed_char h⟩, ?_⟩, unbracketed_codeOf c⟩, ?_⟩ <;> exact unbracketed_ofList (by decide)
    · simp only [String.toList_append, unbracketed_append]
      exact ⟨unbracketed_ofList (by decide), unbracketed_codeOf c⟩
  | badNumber kind =>
    unfold Fault.message
    simp only [String.toList_append, unbracketed_append]
    refine ⟨⟨?_, unbracketed_name kind⟩, ?_⟩ <;> exact unbracketed_ofList (by decide)
  | badDigit digit kind =>
    unfold Fault.message
    simp only [String.toList_append, unbracketed_append]
    refine ⟨⟨⟨⟨?_, unbracketed_char h⟩, ?_⟩, unbracketed_name kind⟩, ?_⟩ <;> exact unbracketed_ofList (by decide)
  | tooManyDigits count =>
    unfold Fault.message
    simp only [String.toList_append, unbracketed_append]
    refine ⟨⟨⟨?_, unbracketed_toString count⟩, ?_⟩, ?_⟩ <;> exact unbracketed_ofList (by decide)
  | unclosedText isBlock line =>
    unfold Fault.message
    simp only [String.toList_append, unbracketed_append]
    refine ⟨⟨⟨⟨?_, ?_⟩, ?_⟩, unbracketed_toString line⟩, ?_⟩
    · exact unbracketed_ofList (by decide)
    · cases isBlock <;> exact unbracketed_ofList (by decide)
    · exact unbracketed_ofList (by decide)
    · exact unbracketed_ofList (by decide)
  | unopened closing =>
    unfold Fault.message
    simp only [String.toList_append, unbracketed_append]
    refine ⟨⟨?_, unbracketed_char h⟩, ?_⟩ <;> exact unbracketed_ofList (by decide)
  | crossed closing opening line? =>
    unfold Fault.message
    simp only [String.toList_append, unbracketed_append]
    refine ⟨⟨⟨⟨⟨?_, unbracketed_char h.1⟩, ?_⟩, unbracketed_char h.2⟩, ?_⟩, ?_⟩
    · exact unbracketed_ofList (by decide)
    · exact unbracketed_ofList (by decide)
    · exact unbracketed_ofList (by decide)
    · cases line? with
      | none => exact unbracketed_ofList (by decide)
      | some line =>
        simp only [String.toList_append, unbracketed_append]
        exact ⟨unbracketed_ofList (by decide), unbracketed_toString line⟩
  | unclosed opening =>
    unfold Fault.message
    simp only [String.toList_append, unbracketed_append]
    refine ⟨⟨?_, unbracketed_char h⟩, ?_⟩ <;> exact unbracketed_ofList (by decide)
  | badEscape start stop cause =>
    unfold Fault.message
    simp only [String.toList_append, unbracketed_append]
    refine ⟨⟨⟨⟨⟨?_, unbracketed_toString start⟩, ?_⟩, unbracketed_toString _⟩, ?_⟩, h⟩ <;>
      exact unbracketed_ofList (by decide)
  | badByte place =>
    unfold Fault.message
    simp only [String.toList_append, unbracketed_append]
    exact ⟨unbracketed_ofList (by decide), unbracketed_toString place⟩
  | formatted fault => exact FormatFault.Mild.message h
  | embedded fault ih =>
    unfold Fault.message
    simp only [String.toList_append, unbracketed_append]
    exact ⟨unbracketed_ofList (by decide), ih h⟩
  | _ => exact unbracketed_ofList (by decide)

/-! ## What readers come to -/

/-- What fails has a mild fault, and what does not fail is as it should be. -/
def Safe {ε α : Type} (mild : ε → Prop) (good : α → Prop) : Except ε α → Prop
  | .ok a => good a
  | .error fault => mild fault

section

variable {ε ε' α β : Type} {mild : ε → Prop} {mild' : ε' → Prop} {good better : α → Prop} {next : β → Prop}
  {x : Except ε α}

theorem Safe.imp (h : Safe mild better x) (himp : ∀ a, better a → good a) : Safe mild good x := by
  cases x with
  | ok a => exact himp a h
  | error => exact h

theorem Safe.bind {f : α → Except ε β} (h : Safe mild good x) (hf : ∀ a, good a → Safe mild next (f a)) :
    Safe mild next (x >>= f) := by
  cases x with
  | ok a => exact hf a h
  | error => exact h

theorem Safe.map {f : α → β} (h : Safe mild good x) (hf : ∀ a, good a → next (f a)) : Safe mild next (x.map f) := by
  cases x with
  | ok a => exact hf a h
  | error => exact h

theorem Safe.mapError {f : ε → ε'} (h : Safe mild good x) (hf : ∀ fault, mild fault → mild' (f fault)) :
    Safe mild' good (x.mapError f) := by
  cases x with
  | ok => exact h
  | error fault => exact hf fault h

end

end Literal

end ClassChain

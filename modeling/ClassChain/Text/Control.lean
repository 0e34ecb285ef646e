/-!
# Control sequences

What a terminal takes as an instruction instead of showing it: an escape character and a bracket, parameters, intermediate
characters, and one final character. Text that goes elsewhere than to a terminal is written without them.

`withoutControls_eq_self_iff` says that text without a control sequence is written as it is.
-/

namespace ClassChain.Text

/-- A parameter of a control sequence. -/
def isParameter (c : Char) : Bool := '0' ≤ c && c ≤ '?'

/-- A character between the parameters and the final character. -/
def isIntermediate (c : Char) : Bool := ' ' ≤ c && c ≤ '/'

/-- A character that ends a control sequence. -/
def isFinal (c : Char) : Bool := '@' ≤ c && c ≤ '~'

/-- What follows the parameters and intermediate characters of a control sequence and its final character, if it has one. -/
def controlEnd? (cs : List Char) : Option (List Char) :=
  match (cs.dropWhile isParameter).dropWhile isIntermediate with
  | c :: rest => if isFinal c then some rest else none
  | [] => none

theorem length_controlEnd {cs rest : List Char} (h : controlEnd? cs = some rest) : rest.length < cs.length := by
  simp only [controlEnd?] at h
  split at h
  · rename_i c after hc
    split at h
    · have hlast := (List.dropWhile_suffix (l := cs.dropWhile isParameter) isIntermediate).length_le
      have hfirst := (List.dropWhile_suffix (l := cs) isParameter).length_le
      rw [hc] at hlast
      simp only [List.length_cons, Option.some.injEq] at hlast h
      subst h
      omega
    · simp at h
  · simp at h

/-- A text without its control sequences. -/
def withoutControls (cs : List Char) : List Char :=
  match cs with
  | [] => []
  | '\x1b' :: '[' :: rest =>
    match _h : controlEnd? rest with
    | some after => withoutControls after
    | none => '\x1b' :: withoutControls ('[' :: rest)
  | c :: rest => c :: withoutControls rest
termination_by cs.length
decreasing_by
  · have := length_controlEnd _h
    simp only [List.length_cons]
    omega
  · simp
  · simp

theorem suffix_controlEnd {cs rest : List Char} (h : controlEnd? cs = some rest) : rest <:+ cs := by
  simp only [controlEnd?] at h
  split at h
  · rename_i c after hc
    split at h
    · obtain rfl : after = rest := by simpa using h
      have hsuffix : c :: after <:+ cs.dropWhile isParameter := hc ▸ List.dropWhile_suffix isIntermediate
      exact (List.suffix_cons c after).trans (hsuffix.trans (List.dropWhile_suffix isParameter))
    · cases h
  · cases h

/-- What is written of a text stands in it. -/
theorem sublist_withoutControls (cs : List Char) : (withoutControls cs).Sublist cs := by
  fun_induction withoutControls cs with
  | case1 => exact List.Sublist.refl _
  | case2 rest after h ih => exact ih.trans ((suffix_controlEnd h).sublist.trans (by simp))
  | case3 rest h ih => exact ih.cons_cons _
  | case4 c rest _ ih => exact ih.cons_cons _

/-- A control sequence stands in the text. -/
def HasControl (cs : List Char) : Prop := ∃ before rest, cs = before ++ '\x1b' :: '[' :: rest ∧ (controlEnd? rest).isSome = true

theorem hasControl_cons {c : Char} {cs : List Char} :
    HasControl (c :: cs) ↔ (∃ rest, c = '\x1b' ∧ cs = '[' :: rest ∧ (controlEnd? rest).isSome = true) ∨ HasControl cs := by
  constructor
  · rintro ⟨before, rest, heq, hend⟩
    cases before with
    | nil =>
      obtain ⟨rfl, rfl⟩ := List.cons_eq_cons.mp heq
      exact Or.inl ⟨rest, rfl, rfl, hend⟩
    | cons b before =>
      obtain ⟨rfl, rfl⟩ := List.cons_eq_cons.mp heq
      exact Or.inr ⟨before, rest, rfl, hend⟩
  · rintro (⟨rest, rfl, rfl, hend⟩ | ⟨before, rest, rfl, hend⟩)
    · exact ⟨[], rest, rfl, hend⟩
    · exact ⟨c :: before, rest, rfl, hend⟩

/-- Text is written as it is exactly when no control sequence stands in it. -/
theorem withoutControls_eq_self_iff {cs : List Char} : withoutControls cs = cs ↔ ¬ HasControl cs := by
  fun_induction withoutControls cs with
  | case1 => simp [HasControl]
  | case2 rest after h _ =>
    have hlen := (sublist_withoutControls after).length_le
    have hend := length_controlEnd h
    refine iff_of_false (fun heq => ?_) (not_not_intro (hasControl_cons.mpr (Or.inl ⟨rest, rfl, rfl, by simp [h]⟩)))
    rw [heq, List.length_cons, List.length_cons] at hlen
    omega
  | case3 rest h ih => simp [hasControl_cons (c := '\x1b'), h, ih]
  | case4 c rest hnot ih =>
    rw [hasControl_cons, List.cons_inj_right, ih]
    have hno : ¬ ∃ r, c = '\x1b' ∧ rest = '[' :: r ∧ (controlEnd? r).isSome = true := fun ⟨r, hc, hr, _⟩ => hnot r hc hr
    simp [hno]

end ClassChain.Text

/-!
# Splitting at separators

Text cut at every character of a class, as paths and module ids are; the separators are dropped and parts may be empty.

`flatten_splitWhere` says that the parts hold exactly the characters outside the class, and `splitWhere_append_cons` that the two
sides of a separator are cut each on its own.
-/

namespace ClassChain.Text

/-- Puts a character in front of the first part. -/
def consFirst (c : Char) : List (List Char) → List (List Char)
  | [] => [[c]]
  | part :: parts => (c :: part) :: parts

@[simp] theorem consFirst_ne_nil (c : Char) (parts : List (List Char)) : consFirst c parts ≠ [] := by
  cases parts <;> simp [consFirst]

@[simp] theorem flatten_consFirst (c : Char) (parts : List (List Char)) :
    (consFirst c parts).flatten = c :: parts.flatten := by
  cases parts <;> simp [consFirst]

theorem length_consFirst (c : Char) {parts : List (List Char)} (h : parts ≠ []) :
    (consFirst c parts).length = parts.length := by
  cases parts <;> simp_all [consFirst]

theorem intercalate_consFirst (sep : List Char) (c : Char) {parts : List (List Char)} (h : parts ≠ []) :
    sep.intercalate (consFirst c parts) = c :: sep.intercalate parts := by
  match parts, h with
  | [part], _ => simp [consFirst, List.intercalate]
  | part :: next :: rest, _ => simp [consFirst, List.intercalate, List.intersperse]

/-- The parts between the characters that a test picks out; one more than there are such characters. -/
def splitWhere (isSeparator : Char → Bool) : List Char → List (List Char)
  | [] => [[]]
  | c :: cs => if isSeparator c then [] :: splitWhere isSeparator cs else consFirst c (splitWhere isSeparator cs)

theorem splitWhere_ne_nil (isSeparator : Char → Bool) (cs : List Char) : splitWhere isSeparator cs ≠ [] := by
  cases cs with
  | nil => simp [splitWhere]
  | cons c cs => simp only [splitWhere]; split <;> simp

/-- The parts hold the characters that are no separators, in order. -/
theorem flatten_splitWhere (isSeparator : Char → Bool) (cs : List Char) :
    (splitWhere isSeparator cs).flatten = cs.filter (!isSeparator ·) := by
  induction cs with
  | nil => simp [splitWhere]
  | cons c cs ih => cases hs : isSeparator c <;> simp [splitWhere, hs, ih]

/-- Text without separators is one part. -/
theorem splitWhere_of_none {isSeparator : Char → Bool} {cs : List Char} (h : ∀ c ∈ cs, isSeparator c = false) :
    splitWhere isSeparator cs = [cs] := by
  induction cs with
  | nil => rfl
  | cons c cs ih => simp [splitWhere, consFirst, h c (by simp), ih fun x hx => h x (by simp [hx])]

/-- Text is cut in two at any separator, and each side is cut on its own. -/
theorem splitWhere_append_cons {isSeparator : Char → Bool} {c : Char} (hc : isSeparator c = true) (cs ds : List Char) :
    splitWhere isSeparator (cs ++ c :: ds) = splitWhere isSeparator cs ++ splitWhere isSeparator ds := by
  induction cs with
  | nil => simp [splitWhere, hc]
  | cons x cs ih =>
    obtain ⟨part, parts, hp⟩ := List.exists_cons_of_ne_nil (splitWhere_ne_nil isSeparator cs)
    rw [List.cons_append, splitWhere, splitWhere, ih, hp]
    split <;> rfl

end ClassChain.Text

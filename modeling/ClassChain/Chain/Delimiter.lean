import ClassChain.Text.Split

/-!
# Chain delimiters

A chain joins utilities with a delimiter, but a delimiter inside an arbitrary-value bracket group is data: the one in
`bg-[url(a|b)]` separates nothing. Text is therefore read with a running bracket depth, and a delimiter counts where the depth is
exactly zero. Brackets need not match, so the depth may fall below zero, and no delimiter counts there either.

`split_ne_nil` says that a split has a part, `join_split` that the parts joined again are the text, and `contains_iff` that text
holds a delimiter exactly when its split has more than one part.
-/

namespace ClassChain.Chain

open Text (consFirst length_consFirst intercalate_consFirst)

/-- What stands between two utilities of a chain. -/
def delimiter : Char := '|'

/-- What opens a bracket group. -/
def openBracket : Char := '['

/-- What closes a bracket group. -/
def closeBracket : Char := ']'

/-- The bracket depth after a character. -/
def depthAfter (depth : Int) (c : Char) : Int :=
  if c = openBracket then depth + 1 else if c = closeBracket then depth - 1 else depth

/-- Text that starts at a depth holds a delimiter that counts. -/
def containsFrom (depth : Int) : List Char → Bool
  | [] => false
  | c :: cs => (c = delimiter && depth = 0) || containsFrom (depthAfter depth c) cs

/-- Text holds a delimiter outside every bracket group. -/
def contains (cs : List Char) : Bool := containsFrom 0 cs

/-- The parts of text that starts at a depth, cut at each delimiter that counts. -/
def splitFrom (depth : Int) : List Char → List (List Char)
  | [] => [[]]
  | c :: cs =>
    if c = delimiter ∧ depth = 0 then [] :: splitFrom 0 cs else consFirst c (splitFrom (depthAfter depth c) cs)

/-- The parts of text, cut at each delimiter outside every bracket group; at least one, some of them perhaps empty. -/
def split (cs : List Char) : List (List Char) := splitFrom 0 cs

/-! ## Parts and text -/

theorem splitFrom_ne_nil (depth : Int) (cs : List Char) : splitFrom depth cs ≠ [] := by
  cases cs with
  | nil => simp [splitFrom]
  | cons c cs => simp only [splitFrom]; split <;> simp

theorem split_ne_nil (cs : List Char) : split cs ≠ [] := splitFrom_ne_nil 0 cs

theorem join_splitFrom (depth : Int) (cs : List Char) : [delimiter].intercalate (splitFrom depth cs) = cs := by
  induction cs generalizing depth with
  | nil => simp [splitFrom, List.intercalate]
  | cons c cs ih =>
    simp only [splitFrom]
    split
    · rename_i h
      obtain ⟨part, parts, hp⟩ := List.exists_cons_of_ne_nil (splitFrom_ne_nil 0 cs)
      have := ih 0
      rw [hp] at this ⊢
      simp only [List.intercalate, List.intersperse_cons_cons, List.flatten_cons, List.nil_append] at this ⊢
      rw [this, h.1]
      rfl
    · rw [intercalate_consFirst _ _ (splitFrom_ne_nil _ _), ih]

/-- Joining the parts with the delimiter gives the text back. -/
theorem join_split (cs : List Char) : [delimiter].intercalate (split cs) = cs := join_splitFrom 0 cs

theorem containsFrom_iff (depth : Int) (cs : List Char) : containsFrom depth cs = true ↔ 1 < (splitFrom depth cs).length := by
  induction cs generalizing depth with
  | nil => simp [containsFrom, splitFrom]
  | cons c cs ih =>
    simp only [containsFrom, splitFrom, Bool.or_eq_true, Bool.and_eq_true, decide_eq_true_eq]
    split
    · rename_i h
      have := List.length_pos_iff.mpr (splitFrom_ne_nil 0 cs)
      simp [h.1, h.2]
      omega
    · rename_i h
      rw [length_consFirst _ (splitFrom_ne_nil _ _), ← ih]
      exact or_iff_right h

/-- Text holds a delimiter that counts exactly when its split has more than one part. -/
theorem contains_iff (cs : List Char) : contains cs = true ↔ 1 < (split cs).length := containsFrom_iff 0 cs

end ClassChain.Chain

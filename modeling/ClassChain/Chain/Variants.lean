import ClassChain.Chain.Delimiter

/-!
# Variants

A class token may open with variants: segments such as `md` or `hover`, or bracket groups such as `[&>div]`, each closed by a
separator. `md:hover:p-2|p-4` has the variants `md:` and `hover:` and the rest `p-2|p-4`. The reading takes one segment after
another and stops at the first that no separator closes.

`lead_append_rest` says that the reading loses nothing.
-/

namespace ClassChain.Chain

/-- What closes a variant. -/
def separator : Char := ':'

/-- A character that may stand in a plain segment. -/
def isPlain (c : Char) : Bool := c != separator && c != openBracket && c != delimiter

/-- The length of a bracket group from inside it: up to and with the bracket that brings the depth to zero, or all of the text
if none does. -/
def groupLength : Nat → List Char → Nat
  | 0, _ => 0
  | _, [] => 0
  | depth + 1, c :: cs =>
    1 + groupLength (if c = openBracket then depth + 2 else if c = closeBracket then depth else depth + 1) cs

/-- The length of the segment that text opens with: a bracket group, or a run of plain characters. -/
def segmentLength : List Char → Nat
  | [] => 0
  | c :: cs => if c = openBracket then 1 + groupLength 1 cs else ((c :: cs).takeWhile isPlain).length

/-- The variant that text opens with, separator included, and what follows it; `none` if no separator closes the segment. -/
def variant? (cs : List Char) : Option (List Char × List Char) :=
  match cs.drop (segmentLength cs) with
  | [] => none
  | c :: rest => if c = separator then some (cs.take (segmentLength cs) ++ [c], rest) else none

/-- The variant and what follows it are the text. -/
theorem append_of_variant? {cs variant rest : List Char} (h : variant? cs = some (variant, rest)) : variant ++ rest = cs := by
  simp only [variant?] at h
  split at h
  · simp at h
  · rename_i c tail hdrop
    split at h
    · simp only [Option.some.injEq, Prod.mk.injEq] at h
      obtain ⟨rfl, rfl⟩ := h
      rw [List.append_assoc, List.singleton_append, ← hdrop, List.take_append_drop]
    · simp at h

/-- A variant holds its separator at least. -/
theorem ne_nil_of_variant? {cs variant rest : List Char} (h : variant? cs = some (variant, rest)) : variant ≠ [] := by
  simp only [variant?] at h
  split at h
  · simp at h
  · split at h
    · simp only [Option.some.injEq, Prod.mk.injEq] at h
      simp [← h.1]
    · simp at h

/-- What follows a variant is shorter than the text. -/
theorem length_lt_of_variant? {cs variant rest : List Char} (h : variant? cs = some (variant, rest)) :
    rest.length < cs.length := by
  have hne := List.length_pos_iff.mpr (ne_nil_of_variant? h)
  rw [← append_of_variant? h, List.length_append]
  omega

/-- A token read as its variants and the rest. -/
structure Reading where
  /-- The variants in order, each with its separator. -/
  variants : List (List Char)
  /-- What follows the variants. -/
  rest : List Char
  deriving DecidableEq, Repr

/-- The variants as they stand in the token. -/
def Reading.lead (r : Reading) : List Char := r.variants.flatten

/-- Reads the variants of a token, as many as there are. -/
def read (token : List Char) : Reading :=
  match _h : variant? token with
  | none => ⟨[], token⟩
  | some (variant, rest) =>
    let after := read rest
    ⟨variant :: after.variants, after.rest⟩
termination_by token.length
decreasing_by exact length_lt_of_variant? _h

theorem read_of_none {token : List Char} (h : variant? token = none) : read token = ⟨[], token⟩ := by
  rw [read]
  split <;> simp_all

theorem read_of_some {token variant rest : List Char} (h : variant? token = some (variant, rest)) :
    read token = ⟨variant :: (read rest).variants, (read rest).rest⟩ := by
  rw [read]
  split <;> simp_all

/-- The variants and the rest are the token. -/
theorem lead_append_rest (token : List Char) : (read token).lead ++ (read token).rest = token := by
  fun_induction read token with
  | case1 token h => simp [Reading.lead]
  | case2 token variant rest h after ih =>
    simp only [Reading.lead, List.flatten_cons, List.append_assoc] at ih ⊢
    rw [ih, append_of_variant? h]

/-- What is left after reading opens with no variant. -/
theorem variant?_rest (token : List Char) : variant? (read token).rest = none := by
  fun_induction read token with
  | case1 token h => exact h
  | case2 token variant rest h after ih => exact ih

end ClassChain.Chain

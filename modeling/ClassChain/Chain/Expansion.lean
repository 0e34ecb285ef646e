import ClassChain.Chain.Variants
import ClassChain.Text.Blank

/-!
# Expansion of chains

A chained token shares its variants between several utilities: `hover:a|b` stands for the classes `hover:a` and `hover:b`. A token
without a variant is never expanded, since there a delimiter is as likely data as a chain. In a value, every word between blanks
is a token of its own, and the blanks stay as they are.

`classes_of_not_contains` and `classes_of_lead_nil` say which tokens stay whole, and `expandWords_eq_self` that a value without
a delimiter does.
-/

namespace ClassChain.Chain

/-- The classes that a token stands for. -/
def classes (token : List Char) : List (List Char) :=
  let reading := read token
  if reading.lead = [] then [token] else (split reading.rest).map (reading.lead ++ ·)

/-- A token written out: its classes with a space between. -/
def expand (token : List Char) : List Char := [' '].intercalate (classes token)

/-- Maps every word of a text, a longest run without blanks, and keeps the blanks. -/
def mapWords (f : List Char → List Char) (cs : List Char) : List Char :=
  match cs with
  | [] => []
  | c :: rest =>
    if Text.isBlank c then c :: mapWords f rest
    else f (c :: rest.takeWhile (!Text.isBlank ·)) ++ mapWords f (rest.dropWhile (!Text.isBlank ·))
termination_by cs.length
decreasing_by
  · simp
  · have := (List.dropWhile_suffix (p := fun x => !Text.isBlank x) (l := rest)).length_le
    simp only [List.length_cons]
    omega

/-- A value with every word written out. -/
def expandWords (value : List Char) : List Char := mapWords expand value

/-! ## Tokens that stay whole -/

theorem classes_of_lead_nil {token : List Char} (h : (read token).lead = []) : classes token = [token] := by
  simp [classes, h]

theorem split_of_not_contains {cs : List Char} (h : contains cs = false) : split cs = [cs] := by
  have hlen : ¬ 1 < (split cs).length := by rw [← contains_iff, h]; simp
  have hjoin := join_split cs
  match hs : split cs with
  | [] => exact absurd hs (split_ne_nil cs)
  | [part] =>
    rw [hs] at hjoin
    simp only [List.intercalate, List.intersperse_singleton, List.flatten_cons, List.flatten_nil, List.append_nil] at hjoin
    rw [hjoin]
  | _ :: _ :: _ => rw [hs] at hlen; simp at hlen

/-- A token stays whole when its rest holds no delimiter that counts. -/
theorem classes_of_not_contains {token : List Char} (h : contains (read token).rest = false) : classes token = [token] := by
  simp [classes, split_of_not_contains h, lead_append_rest]

theorem expand_of_classes {token : List Char} (h : classes token = [token]) : expand token = token := by
  simp [expand, h, List.intercalate]

/-- A token is at least one class. -/
theorem classes_ne_nil (token : List Char) : classes token ≠ [] := by
  simp only [classes]
  split <;> simp [split_ne_nil]

theorem containsFrom_of_not_mem {depth : Int} {cs : List Char} (h : delimiter ∉ cs) : containsFrom depth cs = false := by
  induction cs generalizing depth with
  | nil => rfl
  | cons c cs ih =>
    simp only [List.mem_cons, not_or] at h
    simp [containsFrom, ih h.2, Ne.symm h.1]

/-- A token without a delimiter stays whole. -/
theorem expand_of_not_mem {token : List Char} (h : delimiter ∉ token) : expand token = token := by
  refine expand_of_classes (classes_of_not_contains (containsFrom_of_not_mem fun hmem => h ?_))
  rw [← lead_append_rest token]
  exact List.mem_append_right _ hmem

/-- A value without a delimiter stays as it is. -/
theorem expandWords_eq_self {value : List Char} (h : delimiter ∉ value) : expandWords value = value := by
  unfold expandWords
  fun_induction mapWords expand value with
  | case1 => rfl
  | case2 c rest hc ih => rw [ih fun hm => h (List.mem_cons_of_mem _ hm)]
  | case3 c rest hc ih =>
    have hsplit : rest.takeWhile (!Text.isBlank ·) ++ rest.dropWhile (!Text.isBlank ·) = rest :=
      List.takeWhile_append_dropWhile
    rw [ih fun hm => h (List.mem_cons_of_mem _ (hsplit ▸ List.mem_append_right _ hm)), expand_of_not_mem, List.cons_append,
      hsplit]
    intro hm
    rcases List.mem_cons.mp hm with rfl | hm
    · exact h List.mem_cons_self
    · exact h (List.mem_cons_of_mem _ (hsplit ▸ List.mem_append_left _ hm))

end ClassChain.Chain

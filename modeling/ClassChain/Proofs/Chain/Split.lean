import ClassChain.Proofs.Chain.Depth

/-!
# What a split is

A text is level when it opens as many brackets as it closes, and a delimiter of a text counts when the text before it is level:
`IsLevel` and `Counts` say this of a text and a place in it, without a depth that runs along. `contains` finds out whether there is
such a delimiter (`contains_iff_counts`), and the split has one part more than there are (`length_split`).

`IsSplit` says what makes some parts a split of a text: joined again they are the text, no part has a delimiter that counts when the
part is looked at by itself, and all parts but the last are level. The split keeps one depth over the whole text, which falls below
zero or never comes back to it where brackets do not match; since the parts before the last are level, every part begins at depth
zero all the same. So `split_eq_iff`: each text has exactly one such list of parts, its split.
-/

namespace ClassChain.Chain

/-- A text opens as many brackets as it closes, in whatever order. -/
def IsLevel (cs : List Char) : Prop := cs.count openBracket = cs.count closeBracket

instance : DecidablePred IsLevel := fun cs =>
  inferInstanceAs (Decidable (cs.count openBracket = cs.count closeBracket))

/-- At a place in a text stands a delimiter, and the text before it is level. -/
def Counts (cs : List Char) (i : Nat) : Prop := cs[i]? = some delimiter ∧ IsLevel (cs.take i)

instance (cs : List Char) : DecidablePred (Counts cs) := fun i =>
  inferInstanceAs (Decidable (cs[i]? = some delimiter ∧ IsLevel (cs.take i)))

/-- How many delimiters of a text count. -/
def delimiters (cs : List Char) : Nat := (List.range cs.length).countP fun i => decide (Counts cs i)

/-- Some parts are a split of a text. -/
structure IsSplit (cs : List Char) (parts : List (List Char)) : Prop where
  ne_nil : parts ≠ []
  join : [delimiter].intercalate parts = cs
  whole : ∀ part ∈ parts, ∀ i, ¬ Counts part i
  level : ∀ part ∈ parts.dropLast, IsLevel part

/-! ## Level texts -/

/-- The depth after a text, by the brackets that it opens and closes. -/
theorem depthOf_eq (depth : Int) (cs : List Char) :
    depthOf depth cs = depth + cs.count openBracket - cs.count closeBracket := by
  induction cs generalizing depth with
  | nil => simp
  | cons c cs ih =>
    rw [depthOf_cons, ih, List.count_cons, List.count_cons, depthAfter]
    by_cases hopen : c = openBracket
    · subst hopen
      simp [openBracket, closeBracket]
      omega
    · by_cases hclose : c = closeBracket
      · subst hclose
        simp [openBracket, closeBracket]
        omega
      · simp [hopen, hclose]

theorem isLevel_iff {cs : List Char} : IsLevel cs ↔ depthOf 0 cs = 0 := by
  rw [depthOf_eq, IsLevel]
  omega

theorem isLevel_delimiter : IsLevel [delimiter] := by decide

/-- What stands before a text does not matter for its brackets when it is level. -/
theorem IsLevel.append_iff {a b : List Char} (ha : IsLevel a) : IsLevel (a ++ b) ↔ IsLevel b := by
  unfold IsLevel at ha ⊢
  rw [List.count_append, List.count_append, ha]
  omega

/-! ## Delimiters that count -/

theorem containsFrom_iff_exists {depth : Int} {cs : List Char} :
    containsFrom depth cs = true ↔ ∃ i, cs[i]? = some delimiter ∧ depthOf depth (cs.take i) = 0 := by
  induction cs generalizing depth with
  | nil => simp [containsFrom]
  | cons c cs ih =>
    rw [← Nat.or_exists_add_one]
    simp [containsFrom, ih]

/-- A text holds a delimiter outside every bracket group exactly when some delimiter of it counts. -/
theorem contains_iff_counts {cs : List Char} : contains cs = true ↔ ∃ i, Counts cs i := by
  rw [contains, containsFrom_iff_exists]
  simp only [Counts, isLevel_iff]

theorem contains_eq_false_iff {cs : List Char} : contains cs = false ↔ ∀ i, ¬ Counts cs i := by
  rw [← Bool.not_eq_true, contains_iff_counts, not_exists]

theorem counts_append_left {a b : List Char} {i : Nat} (h : i < a.length) : Counts (a ++ b) i ↔ Counts a i := by
  rw [Counts, Counts, List.getElem?_append_left h, List.take_append_of_le_length (Nat.le_of_lt h)]

theorem counts_append_right {a b : List Char} (ha : IsLevel a) (i : Nat) : Counts (a ++ b) (a.length + i) ↔ Counts b i := by
  rw [Counts, Counts, List.getElem?_append_right (Nat.le_add_right _ _), Nat.add_sub_cancel_left,
    List.take_length_add_append, ha.append_iff]

/-- Behind a level text the delimiters count as they do without it. -/
theorem delimiters_append {a b : List Char} (ha : IsLevel a) : delimiters (a ++ b) = delimiters a + delimiters b := by
  rw [delimiters, List.length_append, List.range_add, List.countP_append, List.countP_map]
  congr 1
  · refine List.countP_congr fun i hi => ?_
    simp [counts_append_left (List.mem_range.mp hi)]
  · refine List.countP_congr fun i _ => ?_
    simp [counts_append_right ha]

theorem delimiters_of_not_contains {cs : List Char} (h : contains cs = false) : delimiters cs = 0 := by
  refine List.countP_eq_zero.mpr fun i _ => ?_
  simpa using contains_eq_false_iff.mp h i

theorem delimiters_delimiter_cons (cs : List Char) : delimiters (delimiter :: cs) = delimiters cs + 1 := by
  rw [← List.singleton_append, delimiters_append isLevel_delimiter, Nat.add_comm]
  rfl

/-- A split has one part more than delimiters count. -/
theorem length_split (cs : List Char) : (split cs).length = delimiters cs + 1 := by
  induction cs using split_induction with
  | whole cs hcs => rw [split_of_not_contains hcs, delimiters_of_not_contains hcs, List.length_singleton]
  | cut first rest hfirst hzero hsplit ih =>
    rw [hsplit, List.length_cons, ih, delimiters_append (isLevel_iff.mpr hzero), delimiters_of_not_contains hfirst,
      delimiters_delimiter_cons, Nat.zero_add]

theorem contains_iff_delimiters {cs : List Char} : contains cs = true ↔ 0 < delimiters cs := by
  rw [contains_iff, length_split]
  omega

/-! ## The one split -/

/-- Every part of a split but the last is level. -/
theorem isLevel_of_mem_dropLast_split {cs part : List Char} (h : part ∈ (split cs).dropLast) : IsLevel part := by
  induction cs using split_induction with
  | whole cs hcs =>
    rw [split_of_not_contains hcs] at h
    simp at h
  | cut first rest _ hzero hsplit ih =>
    rw [hsplit, List.dropLast_cons_of_ne_nil (split_ne_nil rest), List.mem_cons] at h
    rcases h with rfl | h
    · exact isLevel_iff.mpr hzero
    · exact ih h

theorem isSplit_split (cs : List Char) : IsSplit cs (split cs) where
  ne_nil := split_ne_nil cs
  join := join_split cs
  whole := fun _ hpart => contains_eq_false_iff.mp (contains_of_mem_split hpart)
  level := fun _ hpart => isLevel_of_mem_dropLast_split hpart

/-- A text that reaches a delimiter at depth zero, and holds none that counts before, is cut there first. -/
theorem splitFrom_append {depth : Int} {first rest : List Char} (hfirst : containsFrom depth first = false)
    (hzero : depthOf depth first = 0) : splitFrom depth (first ++ delimiter :: rest) = first :: split rest := by
  induction first generalizing depth with
  | nil =>
    rw [depthOf_nil] at hzero
    rw [List.nil_append, splitFrom, if_pos ⟨rfl, hzero⟩, split]
  | cons c first ih =>
    simp only [containsFrom, Bool.or_eq_false_iff, Bool.and_eq_false_iff, decide_eq_false_iff_not] at hfirst
    have hc : ¬ (c = delimiter ∧ depth = 0) := fun hc => hfirst.1.elim (absurd hc.1) (absurd hc.2)
    rw [List.cons_append, splitFrom, if_neg hc, ih hfirst.2 hzero]
    rfl

/-- The parts after the first are a split of what they are joined to. -/
theorem IsSplit.tail {cs part next : List Char} {parts : List (List Char)} (h : IsSplit cs (part :: next :: parts)) :
    IsSplit ([delimiter].intercalate (next :: parts)) (next :: parts) where
  ne_nil := by simp
  join := rfl
  whole := fun x hx => h.whole x (List.mem_cons_of_mem part hx)
  level := by
    intro x hx
    refine h.level x ?_
    rw [List.dropLast_cons_of_ne_nil (by simp)]
    exact List.mem_cons_of_mem part hx

/-- A text is split in one way only. -/
theorem IsSplit.split_eq {cs : List Char} {parts : List (List Char)} (h : IsSplit cs parts) : split cs = parts := by
  induction parts generalizing cs with
  | nil => exact absurd rfl h.ne_nil
  | cons part parts ih =>
    have hpart : contains part = false := contains_eq_false_iff.mpr (h.whole part List.mem_cons_self)
    cases parts with
    | nil =>
      have hjoin := h.join
      rw [List.intercalate_singleton] at hjoin
      rw [← hjoin, split_of_not_contains hpart]
    | cons next parts =>
      have hlevel : IsLevel part := h.level part (by simp)
      have hjoin : cs = part ++ delimiter :: [delimiter].intercalate (next :: parts) := by
        rw [← h.join, List.intercalate_cons_cons, List.append_assoc, List.singleton_append]
      rw [hjoin, split, splitFrom_append hpart (isLevel_iff.mp hlevel), ih h.tail]

/-- The split of a text is the one and only list of parts that is a split of it, and a text holds a delimiter outside every bracket
group exactly when these are two parts or more. -/
theorem split_eq_iff (cs : List Char) :
    (∀ parts, split cs = parts ↔ IsSplit cs parts) ∧ (contains cs = true ↔ 2 ≤ (split cs).length) := by
  refine ⟨fun parts => ⟨?_, ?_⟩, contains_iff cs⟩
  · rintro rfl
    exact isSplit_split cs
  · intro h
    exact h.split_eq

/-- Brackets that close early or stay open: only the delimiters before them and between them are cut at. -/
example : split "a|]b|c[|d[|e".toList = ["a".toList, "]b|c[".toList, "d[|e".toList] := by decide

end ClassChain.Chain

import ClassChain.Chain.Expansion

/-!
# Bracket depth

`depthOf` is the depth that a text leads to. A text closes no bracket early when the depth never falls below zero on the way
(`NeverBelow`); groups may stay open at its end. `splitFrom_cases` says what one step of a split does, and a statement about all
parts of a split is proved by `split_induction`: no part holds a delimiter that counts (`contains_of_mem_split`), and where a text
closes no bracket early none of its parts does (`neverBelow_of_mem_split`), because every part begins at depth zero.
-/

namespace ClassChain.Chain

/-- The bracket depth after a text that is read from a given depth on. -/
def depthOf (depth : Int) (cs : List Char) : Int := cs.foldl depthAfter depth

/-- From a given depth on, the depth never falls below zero: no bracket is closed that was not opened. -/
def NeverBelow (depth : Int) (cs : List Char) : Prop := ∀ before, before <+: cs → 0 ≤ depthOf depth before

@[simp] theorem depthOf_nil (depth : Int) : depthOf depth [] = depth := rfl

@[simp] theorem depthOf_cons (depth : Int) (c : Char) (cs : List Char) :
    depthOf depth (c :: cs) = depthOf (depthAfter depth c) cs := rfl

@[simp] theorem depthOf_append (depth : Int) (a b : List Char) : depthOf depth (a ++ b) = depthOf (depthOf depth a) b :=
  List.foldl_append

theorem containsFrom_append (depth : Int) (a b : List Char) :
    containsFrom depth (a ++ b) = (containsFrom depth a || containsFrom (depthOf depth a) b) := by
  induction a generalizing depth with
  | nil => rfl
  | cons c a ih => simp only [List.cons_append, containsFrom, depthOf_cons, ih, Bool.or_assoc]

/-! ## Texts that close no bracket early -/

theorem NeverBelow.nonneg {depth : Int} {cs : List Char} (h : NeverBelow depth cs) : 0 ≤ depthOf depth cs :=
  h cs (List.prefix_refl cs)

theorem neverBelow_append {depth : Int} {a b : List Char} :
    NeverBelow depth (a ++ b) ↔ NeverBelow depth a ∧ NeverBelow (depthOf depth a) b := by
  constructor
  · intro h
    refine ⟨fun before hb => h before (hb.trans (List.prefix_append a b)), fun before hb => ?_⟩
    rw [← depthOf_append]
    exact h (a ++ before) ((List.prefix_append_right_inj a).mpr hb)
  · rintro ⟨ha, hb⟩ before h
    rcases List.prefix_or_prefix_of_prefix h (List.prefix_append a b) with h' | ⟨after, rfl⟩
    · exact ha before h'
    · rw [depthOf_append]
      exact hb after ((List.prefix_append_right_inj a).mp h)

theorem neverBelow_nil {depth : Int} : NeverBelow depth [] ↔ 0 ≤ depth := by
  constructor
  · intro h
    exact h.nonneg
  · intro h before hb
    rwa [List.prefix_nil.mp hb]

theorem neverBelow_cons {depth : Int} {c : Char} {cs : List Char} :
    NeverBelow depth (c :: cs) ↔ 0 ≤ depth ∧ NeverBelow (depthAfter depth c) cs := by
  rw [← List.singleton_append, neverBelow_append]
  constructor
  · rintro ⟨hc, hcs⟩
    exact ⟨hc [] List.nil_prefix, hcs⟩
  · rintro ⟨hd, hcs⟩
    refine ⟨?_, hcs⟩
    intro before hb
    rcases List.prefix_cons_iff.mp hb with rfl | ⟨more, rfl, hmore⟩
    · exact hd
    · rw [List.prefix_nil.mp hmore]
      exact hcs [] List.nil_prefix

instance decidableNeverBelow : (depth : Int) → (cs : List Char) → Decidable (NeverBelow depth cs)
  | depth, [] => decidable_of_iff (0 ≤ depth) neverBelow_nil.symm
  | depth, c :: cs =>
    have := decidableNeverBelow (depthAfter depth c) cs
    decidable_of_iff (0 ≤ depth ∧ NeverBelow (depthAfter depth c) cs) neverBelow_cons.symm

/-! ## The parts of a split -/

/-- The first part of a split holds no delimiter that counts; it is all of the text, or a delimiter at depth zero ends it and the
other parts are the split of what follows. -/
theorem splitFrom_cases {depth : Int} {cs part : List Char} {parts : List (List Char)}
    (h : splitFrom depth cs = part :: parts) :
    containsFrom depth part = false ∧
      ((cs = part ∧ parts = []) ∨
        ∃ rest, cs = part ++ delimiter :: rest ∧ depthOf depth part = 0 ∧ splitFrom 0 rest = parts) := by
  induction cs generalizing depth part parts with
  | nil =>
    simp only [splitFrom, List.cons.injEq] at h
    obtain ⟨rfl, rfl⟩ := h
    exact ⟨rfl, Or.inl ⟨rfl, rfl⟩⟩
  | cons c cs ih =>
    simp only [splitFrom] at h
    split at h
    · rename_i hc
      obtain ⟨rfl, rfl⟩ := hc
      simp only [List.cons.injEq] at h
      obtain ⟨rfl, rfl⟩ := h
      exact ⟨rfl, Or.inr ⟨cs, rfl, rfl, rfl⟩⟩
    · rename_i hc
      obtain ⟨first, others, hs⟩ := List.exists_cons_of_ne_nil (splitFrom_ne_nil (depthAfter depth c) cs)
      rw [hs] at h
      simp only [Text.consFirst, List.cons.injEq] at h
      obtain ⟨rfl, rfl⟩ := h
      obtain ⟨hfirst, hrest⟩ := ih hs
      refine ⟨?_, ?_⟩
      · simp only [containsFrom, hfirst, Bool.or_false, Bool.and_eq_false_iff, decide_eq_false_iff_not]
        by_cases hd : c = delimiter
        · exact Or.inr fun h0 => hc ⟨hd, h0⟩
        · exact Or.inl hd
      · rcases hrest with ⟨rfl, hnil⟩ | ⟨rest, rfl, hzero, hparts⟩
        · exact Or.inl ⟨rfl, hnil⟩
        · exact Or.inr ⟨rest, rfl, hzero, hparts⟩

/-- A text is not cut, or it is cut first where a delimiter stands at depth zero, and what follows is split on its own. -/
theorem split_induction {P : List Char → Prop} (whole : ∀ cs, contains cs = false → P cs)
    (cut : ∀ first rest, contains first = false → depthOf 0 first = 0 →
      split (first ++ delimiter :: rest) = first :: split rest → P rest → P (first ++ delimiter :: rest))
    (cs : List Char) : P cs := by
  generalize hs : split cs = parts
  induction parts generalizing cs with
  | nil => exact absurd hs (split_ne_nil cs)
  | cons first parts ih =>
    obtain ⟨hfirst, ⟨rfl, -⟩ | ⟨rest, rfl, hzero, hparts⟩⟩ := splitFrom_cases hs
    · exact whole cs hfirst
    · rw [← hparts] at hs
      exact cut first rest hfirst hzero hs (ih rest hparts)

/-- No part of a split holds a delimiter that counts. -/
theorem contains_of_mem_split {cs part : List Char} (h : part ∈ split cs) : contains part = false := by
  induction cs using split_induction with
  | whole cs hcs =>
    rw [split_of_not_contains hcs, List.mem_singleton] at h
    rwa [h]
  | cut first rest hfirst _ hsplit ih =>
    rw [hsplit, List.mem_cons] at h
    rcases h with rfl | h
    · exact hfirst
    · exact ih h

/-- Where a text closes no bracket early, no part of its split does. -/
theorem neverBelow_of_mem_split {cs part : List Char} (hn : NeverBelow 0 cs) (h : part ∈ split cs) : NeverBelow 0 part := by
  induction cs using split_induction with
  | whole cs hcs =>
    rw [split_of_not_contains hcs, List.mem_singleton] at h
    rwa [h]
  | cut first rest _ hzero hsplit ih =>
    obtain ⟨hfirst, hafter⟩ := neverBelow_append.mp hn
    rw [hsplit, List.mem_cons] at h
    rcases h with rfl | h
    · exact hfirst
    · -- the delimiter stands at depth zero, so what follows it begins there too
      rw [hzero, ← List.singleton_append, neverBelow_append] at hafter
      exact ih hafter.2 h

/-- A part of a split is found in the text, with other text before and after it. -/
theorem sublist_of_mem_split {cs part : List Char} (h : part ∈ split cs) : part.Sublist cs := by
  induction cs using split_induction with
  | whole cs hcs =>
    rw [split_of_not_contains hcs, List.mem_singleton] at h
    subst h
    exact List.Sublist.refl part
  | cut first rest _ _ hsplit ih =>
    rw [hsplit, List.mem_cons] at h
    rcases h with rfl | h
    · exact List.sublist_append_left part _
    · exact ((ih h).cons delimiter).trans (List.sublist_append_right first _)

/-- A part of a text that is cut has fewer delimiters than the text. -/
theorem count_lt_of_mem_split {cs part : List Char} (hc : contains cs = true) (h : part ∈ split cs) :
    part.count delimiter < cs.count delimiter := by
  induction cs using split_induction with
  | whole cs hcs =>
    rw [hcs] at hc
    simp at hc
  | cut first rest _ _ hsplit _ =>
    rw [hsplit, List.mem_cons] at h
    rw [List.count_append, List.count_cons_self]
    rcases h with rfl | h
    · omega
    · have hle := (sublist_of_mem_split h).count_le delimiter
      omega

end ClassChain.Chain

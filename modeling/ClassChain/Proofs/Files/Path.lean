import Mathlib.Algebra.GroupWithZero.Nat
import Mathlib.Data.List.Induction
import Mathlib.Tactic.ByContra
import ClassChain.Files.Walk

/-!
# Texts of paths

A path is refused by its text alone when it holds a null character or is too long. `Path.hasNull_iff` finds the null character in
a step. `Legal` paths are those that are refused for neither: a path above a legal one is legal (`Legal.parent`), and a path without
a null character goes on without one through names that fit (`hasNull_append`).
-/

namespace ClassChain.Files

/-! ## Null characters -/

theorem Path.text_of_steps {p : Path} (h : p.steps ≠ []) :
    p.text = p.anchor.text ++ "/".intercalate (p.steps.map Step.text) := by
  obtain ⟨anchor, steps⟩ := p
  obtain ⟨step, steps, rfl⟩ := List.exists_cons_of_ne_nil h
  cases anchor <;> rfl

theorem mem_intercalate_slash {parts : List String} {c : Char} (hc : c ≠ '/') :
    c ∈ ("/".intercalate parts).toList ↔ ∃ part ∈ parts, c ∈ part.toList := by
  induction parts with
  | nil => simp
  | cons part parts ih =>
    cases parts with
    | nil => simp
    | cons next parts =>
      rw [String.intercalate_cons_cons, String.toList_append, String.toList_append, List.mem_append, List.mem_append, ih]
      simp [hc]

/-- A path holds a null character when one of its steps does. -/
theorem Path.hasNull_iff {p : Path} : p.hasNull = true ↔ ∃ step ∈ p.steps, '\x00' ∈ step.text.toList := by
  have hanchor : ∀ a : Anchor, '\x00' ∉ a.text.toList := by
    intro a
    cases a <;> simp [Anchor.text]
  unfold Path.hasNull
  rw [List.contains_iff_mem]
  by_cases hsteps : p.steps = []
  · obtain ⟨anchor, steps⟩ := p
    obtain rfl : steps = [] := hsteps
    cases anchor <;> simp [Path.text, Anchor.text]
  · rw [Path.text_of_steps hsteps, String.toList_append, List.mem_append, mem_intercalate_slash (by decide)]
    simp only [hanchor p.anchor, false_or, List.mem_map, exists_exists_and_eq_and]

theorem Path.hasNull_parent {p : Path} (h : p.hasNull = false) : p.parent.hasNull = false := by
  rw [Bool.eq_false_iff] at h ⊢
  intro hnull
  obtain ⟨step, hstep, hmem⟩ := Path.hasNull_iff.mp hnull
  exact h (Path.hasNull_iff.mpr ⟨step, List.dropLast_subset _ hstep, hmem⟩)

theorem not_mem_of_fits {n : Name} (h : n.fits = true) : '\x00' ∉ n.text.toList := by
  simp only [Name.fits, Bool.and_eq_true, Bool.not_eq_true', List.contains_eq_mem, decide_eq_false_iff_not] at h
  exact h.2

/-- A path goes on without a null character through names that fit. -/
theorem Path.hasNull_append {p : Path} {names : List Name} (hp : p.hasNull = false) (hnames : ∀ n ∈ names, n.fits = true) :
    (p.append names).hasNull = false := by
  rw [Bool.eq_false_iff] at hp ⊢
  intro h
  obtain ⟨step, hstep, hnull⟩ := Path.hasNull_iff.mp h
  rcases List.mem_append.mp hstep with hstep | hstep
  · exact hp (Path.hasNull_iff.mpr ⟨step, hstep, hnull⟩)
  · obtain ⟨n, hn, rfl⟩ := List.mem_map.mp hstep
    exact not_mem_of_fits (hnames n hn) hnull

/-! ## Paths that go on -/

/-- Above a path that goes on is the path that goes on to where the last name stands. -/
theorem Path.parent_append (p : Path) {names : List Name} (h : names ≠ []) : (p.append names).parent = p.append names.dropLast := by
  obtain ⟨front, n, rfl⟩ := (List.eq_nil_or_concat names).resolve_left h
  simp [Path.append, Path.parent, ← List.append_assoc]

theorem Path.append_injective {p : Path} {a b : List Name} (h : p.append a = p.append b) : a = b := by
  have hsteps := List.append_cancel_left (Path.mk.inj h).2
  exact (List.map_inj_right fun _ _ heq => Step.into.inj heq).mp hsteps

/-- Paths that go on to the same path through the same names are the same. -/
theorem Path.eq_of_append_eq {p q : Path} {names : List Name} (h : p.append names = q.append names) : p = q := by
  obtain ⟨hanchor, hsteps⟩ := Path.mk.inj h
  cases p
  cases q
  simp_all

/-! ## Paths that are looked up -/

/-- The path is too long to be looked up. -/
abbrev Path.IsLong (p : Path) : Prop := pathLimit < p.text.utf8ByteSize

/-- The path can be looked up: it holds no null character and is not too long. -/
structure Path.Legal (p : Path) : Prop where
  not_null : p.hasNull = false
  short : p.text.utf8ByteSize ≤ pathLimit

theorem Path.legal_of_not_isLong {p : Path} (hnull : p.hasNull = false) (h : ¬ p.IsLong) : p.Legal := ⟨hnull, Nat.le_of_not_lt h⟩

theorem utf8ByteSize_intercalate {parts : List String} (h : parts ≠ []) :
    ("/".intercalate parts).utf8ByteSize + 1 = (parts.map fun part => part.utf8ByteSize + 1).sum := by
  have hslash : "/".utf8ByteSize = 1 := by decide
  induction parts with
  | nil => exact absurd rfl h
  | cons part parts ih =>
    cases parts with
    | nil => simp
    | cons next parts =>
      have hrest := ih (by simp)
      rw [String.intercalate_cons_cons, String.utf8ByteSize_append, String.utf8ByteSize_append, List.map_cons, List.sum_cons]
      omega

/-- The size of a path is that of its steps with the slashes between them. -/
theorem Path.utf8ByteSize_text {p : Path} (h : p.steps ≠ []) :
    p.text.utf8ByteSize + 1 = p.anchor.text.utf8ByteSize + (p.steps.map fun step => step.text.utf8ByteSize + 1).sum := by
  rw [Path.text_of_steps h, String.utf8ByteSize_append, Nat.add_assoc, utf8ByteSize_intercalate (by simpa using h), List.map_map]
  rfl

/-- A name adds itself and a slash to a path. -/
theorem Path.utf8ByteSize_append_singleton {p : Path} (h : p.steps ≠ []) (n : Name) :
    (p.append [n]).text.utf8ByteSize = p.text.utf8ByteSize + (n.text.utf8ByteSize + 1) := by
  have hbefore := Path.utf8ByteSize_text h
  have hsize := @Path.utf8ByteSize_text (p.append [n]) (by simp [Path.append])
  have hsteps : (p.append [n]).steps = p.steps ++ [.into n] := rfl
  have hanchor : (p.append [n]).anchor = p.anchor := rfl
  have hlast : ([.into n].map fun step : Step => step.text.utf8ByteSize + 1).sum = n.text.utf8ByteSize + 1 := by simp [Step.text]
  rw [hsteps, hanchor, List.map_append, List.sum_append, hlast] at hsize
  omega

/-- A path above one that is not too long is not too long. -/
theorem Path.short_parent {p : Path} (h : p.text.utf8ByteSize ≤ pathLimit) : p.parent.text.utf8ByteSize ≤ pathLimit := by
  obtain ⟨anchor, steps⟩ := p
  rcases List.eq_nil_or_concat steps with rfl | ⟨init, last, rfl⟩
  · exact h
  · rw [List.concat_eq_append] at h ⊢
    simp only [Path.parent, List.dropLast_concat]
    by_cases hinit : init = []
    · subst hinit
      cases anchor <;> exact Nat.le_of_lt_succ (by decide)
    · have hsize := @Path.utf8ByteSize_text ⟨anchor, init ++ [last]⟩ (by simp)
      have hsize' := @Path.utf8ByteSize_text ⟨anchor, init⟩ hinit
      simp only [List.map_append, List.sum_append] at hsize hsize'
      omega

/-- A path above a legal path is legal. -/
theorem Path.Legal.parent {p : Path} (h : p.Legal) : p.parent.Legal := ⟨Path.hasNull_parent h.not_null, Path.short_parent h.short⟩

/-- A path that is too long is so when it goes on. -/
theorem Path.isLong_append {p : Path} {front : List Name} (back : List Name) (h : (p.append front).IsLong) :
    (p.append (front ++ back)).IsLong := by
  induction back using List.reverseRecOn with
  | nil => simpa using h
  | append_singleton back n ih =>
    by_contra hshort
    have hparent : (p.append (front ++ (back ++ [n]))).parent = p.append (front ++ back) := by
      simp [Path.append, Path.parent, ← List.append_assoc]
    have habove := Path.short_parent (Nat.le_of_not_lt hshort)
    rw [hparent] at habove
    exact Nat.not_lt.mpr habove ih

end ClassChain.Files

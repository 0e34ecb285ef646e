import Mathlib.Data.List.Induction
import ClassChain.Proofs.Files.Path
import ClassChain.Files.Operation

/-!
# Walks that go on

A way is walked in two parts: a walk that comes to a directory goes on from there (`walk_append`), and one that comes to anything
else stops at the next step, for a cause that `stopOf` tells (`walk_append_of_stop`). So a path that leads to a directory leads on
from it (`exists_follow_through`).

`Grown` says that one file system is another with more in it: its directories and links stay, and its files stay files. There a
walk to a directory or to a file leads where it led (`Grown.walk`).
-/

namespace ClassChain.Files

/-- The steps end in an entry, as they do for one who is about to make it. -/
def EndsInto (steps : List Step) : Prop := ∃ front n, steps = front ++ [.into n]

theorem EndsInto.ne_close {steps : List Step} (h : EndsInto steps) (before : List Step) : before ++ steps ≠ [.close] := by
  obtain ⟨front, n, rfl⟩ := h
  rw [← List.append_assoc]
  intro heq
  have := congrArg List.getLast? heq
  simp at this

/-- A path continued by steps. -/
def Path.through (p : Path) (steps : List Step) : Path := ⟨p.anchor, p.steps ++ steps⟩

theorem Path.append_eq_through (p : Path) (names : List Name) : p.append names = p.through (names.map Step.into) := rfl

theorem Path.through_through (p : Path) (front back : List Step) :
    (p.through front).through back = p.through (front ++ back) := by
  simp [Path.through]

theorem Path.append_concat (p : Path) (front : List Name) (n : Name) :
    p.append (front ++ [n]) = (p.append front).through [.into n] := by
  simp [Path.append, Path.through]

@[simp] theorem Path.through_nil (p : Path) : p.through [] = p := by simp [Path.through]

@[simp] theorem Path.parent_through_concat (p : Path) (steps : List Step) (step : Step) :
    (p.through (steps ++ [step])).parent = p.through steps := by
  simp [Path.through, Path.parent, ← List.append_assoc]

/-- A path goes over its last step from the path above it. -/
theorem Path.parent_through_of_getLast? {p : Path} {step : Step} (h : p.steps.getLast? = some step) : p.parent.through [step] = p := by
  obtain ⟨front, hfront⟩ := List.getLast?_eq_some_iff.mp h
  obtain ⟨anchor, steps⟩ := p
  obtain rfl : steps = front ++ [step] := hfront
  simp [Path.through, Path.parent]

/-- Why a walk cannot go on from where it came to; it can from a directory. -/
def stopOf : Except Cause Place → Option Cause
  | .ok (.directory _) => none
  | .ok (.file _ _) => some .notDirectory
  | .ok (.absent _ _) => some .missing
  | .error cause => some cause

theorem stopOf_eq_none_iff {outcome : Except Cause Place} : stopOf outcome = none ↔ ∃ l, outcome = .ok (.directory l) := by
  cases outcome with
  | error cause => simp [stopOf]
  | ok place => cases place <;> simp [stopOf]

namespace FileSystem

variable {fs : FileSystem} {dir : Location}

/-! ## Walking in two parts -/

/-- A walk that comes to a directory goes on from there. -/
theorem walk_append {links : Nat} {steps : List Step} {e : Location}
    (h : fs.walk false links dir steps = .ok (.directory e)) :
    ∃ left, ∀ (making : Bool) (rest : List Step), (making = true → EndsInto rest) →
      fs.walk making links dir (steps ++ rest) = fs.walk making left e rest := by
  fun_induction walk fs false links dir steps with
  | case1 links dir =>
    obtain rfl : dir = e := by simpa using h
    exact ⟨links, fun _ _ _ => rfl⟩
  | case2 links dir rest ih | case3 links dir rest ih | case4 links dir rest ih =>
    obtain ⟨left, hleft⟩ := ih h
    exact ⟨left, fun making more hmore => by rw [List.cons_append, walk, hleft making more hmore]⟩
  | case5 | case6 | case7 | case8 | case9 | case10 | case12 => simp_all
  | case11 links dir n rest _ hfits hget ih =>
    obtain ⟨left, hleft⟩ := ih h
    refine ⟨left, fun making more hmore => ?_⟩
    have hclose : ¬ (making = true ∧ rest ++ more = [.close]) := fun hc => (hmore hc.1).ne_close _ hc.2
    rw [List.cons_append, walk, if_neg hclose, if_neg hfits, hget]
    exact hleft making more hmore
  | case13 dir n rest _ hfits target hget links route ih =>
    obtain ⟨left, hleft⟩ := ih h
    refine ⟨left, fun making more hmore => ?_⟩
    have hclose : ¬ (making = true ∧ rest ++ more = [.close]) := fun hc => (hmore hc.1).ne_close _ hc.2
    rw [List.cons_append, walk, if_neg hclose, if_neg hfits, hget]
    have := hleft making more hmore
    rwa [List.append_assoc] at this

/-- A walk that comes to anything else stops at the next step. -/
theorem walk_append_of_stop {links : Nat} {steps rest : List Step} {cause : Cause}
    (h : stopOf (fs.walk false links dir steps) = some cause) (hrest : rest ≠ []) :
    fs.walk false links dir (steps ++ rest) = .error cause := by
  fun_induction walk fs false links dir steps with
  | case1 links dir => simp [stopOf] at h
  | case2 links dir steps ih | case3 links dir steps ih | case4 links dir steps ih =>
    rw [List.cons_append, walk, ih h]
  | case5 links dir n steps hc => simp at hc
  | case6 links dir n steps _ hfits =>
    rw [List.cons_append, walk, if_neg (by simp), if_pos hfits]
    simpa [stopOf] using h
  | case7 links dir n hfits hget | case8 links dir n steps _ hfits hget hne =>
    rw [List.cons_append, walk, if_neg (by simp), if_neg hfits, hget]
    simp only [stopOf, Option.some.injEq] at h
    simp [hrest, h]
  | case9 links dir n hfits content hget | case10 links dir n steps _ hfits content hget hne =>
    rw [List.cons_append, walk, if_neg (by simp), if_neg hfits, hget]
    simp only [stopOf, Option.some.injEq] at h
    simp [hrest, h]
  | case11 links dir n steps _ hfits hget ih =>
    rw [List.cons_append, walk, if_neg (by simp), if_neg hfits, hget]
    exact ih h
  | case12 dir n steps _ hfits target hget =>
    rw [List.cons_append, walk, if_neg (by simp), if_neg hfits, hget]
    simpa [stopOf] using h
  | case13 dir n steps _ hfits target hget links route ih =>
    rw [List.cons_append, walk, if_neg (by simp), if_neg hfits, hget]
    have := ih h
    rwa [List.append_assoc] at this

/-- The directory in which a way starts. -/
def start (fs : FileSystem) (route : Route) : Location := if route.fromRoot then [] else fs.standing

theorem follow_eq {making : Bool} {route : Route} :
    fs.follow making route =
      if fs.isDirectoryAt (fs.start route) then fs.walk making linkLimit (fs.start route) route.steps else .error .missing :=
  rfl

/-- The path without steps leads to where the program stands. -/
theorem follow_standing (h : fs.get? fs.standing = some .directory) :
    fs.follow false (⟨.standing, []⟩ : Path).route = .ok (.directory fs.standing) := by
  have hstart : fs.start (⟨.standing, []⟩ : Path).route = fs.standing := rfl
  have hdir : fs.isDirectoryAt fs.standing = true := decide_eq_true h
  rw [follow_eq, hstart, if_pos hdir]
  exact walk.eq_1 ..

/-- A path that leads to a directory leads on from it. -/
theorem exists_follow_through {p : Path} (h : fs.follow false p.route = .ok (.directory dir)) :
    ∃ left, ∀ (making : Bool) (rest : List Step), (making = true → EndsInto rest) →
      fs.follow making (p.through rest).route = fs.walk making left dir rest := by
  rw [follow_eq] at h
  split at h
  · rename_i hstart
    obtain ⟨left, hleft⟩ := walk_append h
    refine ⟨left, fun making rest hrest => ?_⟩
    rw [follow_eq]
    exact (if_pos hstart).trans (hleft making rest hrest)
  · simp at h

/-- A path that leads to anything else leads nowhere when it goes on. -/
theorem follow_through_of_stop {p : Path} {cause : Cause} (h : stopOf (fs.follow false p.route) = some cause) {rest : List Step}
    (hrest : rest ≠ []) : fs.follow false (p.through rest).route = .error cause := by
  have hsame : fs.start (p.through rest).route = fs.start p.route := rfl
  rw [follow_eq] at h ⊢
  rw [hsame]
  split at h
  · rename_i hstart
    exact (if_pos hstart).trans (walk_append_of_stop h hrest)
  · rename_i hstart
    rw [if_neg hstart]
    simpa [stopOf] using h

/-- From a directory a path leads on to what stands under a name. -/
theorem follow_into (making : Bool) {p : Path} {e : Location} {n : Name} (h : fs.follow false p.route = .ok (.directory e))
    (hfits : n.fits = true) :
    (fs.get? (e ++ [n]) = none → fs.follow making (p.through [.into n]).route = .ok (.absent e n)) ∧
    (fs.get? (e ++ [n]) = some .directory → fs.follow making (p.through [.into n]).route = .ok (.directory (e ++ [n]))) ∧
    ∀ content, fs.get? (e ++ [n]) = some (.file content) →
      fs.follow making (p.through [.into n]).route = .ok (.file (e ++ [n]) content) := by
  obtain ⟨left, hleft⟩ := exists_follow_through h
  rw [hleft making [.into n] fun _ => ⟨[], n, rfl⟩, walk, if_neg (by simp), if_neg (by simp [hfits])]
  refine ⟨fun hget => ?_, fun hget => ?_, fun content hget => ?_⟩
  · simp [hget]
  · rw [hget]
    dsimp only
    rw [walk]
  · simp [hget]

theorem follow_into_of_not_fits {p : Path} {e : Location} {n : Name} (h : fs.follow false p.route = .ok (.directory e))
    (hfits : n.fits = false) : fs.follow false (p.through [.into n]).route = .error .nameTooLong := by
  obtain ⟨left, hleft⟩ := exists_follow_through h
  rw [hleft false [.into n] (by simp), walk, if_neg (by simp), if_pos (by simp [hfits])]

/-! ## Legal paths -/

theorem resolve_of_legal {p : Path} (h : p.Legal) : fs.resolve p = fs.follow false p.route :=
  if_neg (Nat.not_lt.mpr h.short)

theorem resolveForMaking_of_legal {p : Path} (h : p.Legal) : fs.resolveForMaking p = fs.follow true p.route :=
  if_neg (Nat.not_lt.mpr h.short)

theorem follow_of_resolve {p : Path} {place : Place} (h : fs.resolve p = .ok place) : fs.follow false p.route = .ok place := by
  unfold resolve at h
  split at h
  · simp at h
  · exact h

/-! ## More files and directories -/

/-- One file system is another with more in it: directories and links are where they were, and files too, perhaps with another
content. -/
structure Grown (fs after : FileSystem) : Prop where
  standing : after.standing = fs.standing
  directory : ∀ {l : Location}, fs.get? l = some .directory → after.get? l = some .directory
  link : ∀ {l : Location} {t : String}, fs.get? l = some (.link t) → after.get? l = some (.link t)
  file : ∀ {l : Location} {content : ByteArray}, fs.get? l = some (.file content) → ∃ new, after.get? l = some (.file new)

/-- Where nothing stands, nothing stood before there was more. -/
theorem Grown.get?_eq_none {after : FileSystem} (hg : Grown fs after) {l : Location} (h : after.get? l = none) :
    fs.get? l = none := by
  cases hget : fs.get? l with
  | none => rfl
  | some entry =>
    cases entry with
    | directory =>
      rw [hg.directory hget] at h
      cases h
    | link t =>
      rw [hg.link hget] at h
      cases h
    | file content =>
      obtain ⟨new, hnew⟩ := hg.file hget
      rw [hnew] at h
      cases h

/-- A walk that led to a directory leads there with more in the file system. -/
theorem Grown.walk {after : FileSystem} (hg : Grown fs after) {making : Bool} {links : Nat} {steps : List Step} {e : Location}
    (h : fs.walk making links dir steps = .ok (.directory e)) : after.walk making links dir steps = .ok (.directory e) := by
  fun_induction FileSystem.walk fs making links dir steps with
  | case1 => rwa [FileSystem.walk]
  | case2 _ _ _ ih | case3 _ _ _ ih | case4 _ _ _ ih => rw [FileSystem.walk]; exact ih h
  | case5 | case6 | case7 | case8 | case9 | case10 | case12 => simp at h
  | case11 links dir n rest hc hfits hget ih =>
    rw [FileSystem.walk, if_neg hc, if_neg hfits, hg.directory hget]
    exact ih h
  | case13 dir n rest hc hfits target hget links route ih =>
    rw [FileSystem.walk, if_neg hc, if_neg hfits, hg.link hget]
    exact ih h

/-- A path that led to a directory leads there with more in the file system. -/
theorem Grown.follow {after : FileSystem} (hg : Grown fs after) {making : Bool} {route : Route} {e : Location}
    (h : fs.follow making route = .ok (.directory e)) : after.follow making route = .ok (.directory e) := by
  have hsame : after.start route = fs.start route := by rw [start, start, hg.standing]
  rw [follow_eq] at h ⊢
  rw [hsame]
  split at h
  · rename_i hstart
    have hdir : after.isDirectoryAt (fs.start route) = true := decide_eq_true (hg.directory (of_decide_eq_true hstart))
    rw [if_pos hdir]
    exact hg.walk h
  · simp at h

theorem Grown.resolve {after : FileSystem} (hg : Grown fs after) {p : Path} {e : Location}
    (h : fs.resolve p = .ok (.directory e)) : after.resolve p = .ok (.directory e) := by
  unfold FileSystem.resolve at h ⊢
  split at h
  · simp at h
  · rename_i hshort
    rw [if_neg hshort]
    exact hg.follow h

end FileSystem

end ClassChain.Files

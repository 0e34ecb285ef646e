import Mathlib.Data.List.Nodup
import ClassChain.Rewrite.Tree
import ClassChain.Proofs.Files.Change

/-!
# Runs of independent rewritings

Rewritings are independent when each does what it does, and is told as it is told, whatever others went before (`Independent`). A run
over such files comes to an end, does what each of them does, and has a result for each (`Independent.run`). What it leaves does not
depend on the order of the files (`Independent.files_of_perm`).
-/

namespace ClassChain.Rewrite

open Files (Path FileSystem Change)

/-- A file to be rewritten, and where to. -/
abbrev Task := Path × Option Path

/-- A file and its output when their turn comes, and the file system that is found then. -/
structure Turn where
  files : FileSystem
  task : Task

/-- Where the file of a turn goes. -/
def Turn.output (turn : Turn) : Path := turn.task.2.getD turn.task.1

/-- What a turn leaves. -/
def Turn.left (s : Settings) (check : Bool) (turn : Turn) : FileSystem :=
  (rewriteFile s check turn.files turn.task.1 turn.task.2).files

/-- The turns of a run, each with what the turns before have left. -/
def turns (s : Settings) (check : Bool) (fs : FileSystem) : List Task → List Turn
  | [] => []
  | task :: rest => ⟨fs, task⟩ :: turns s check (rewriteFile s check fs task.1 task.2).files rest

/-- The rewriting of a file makes the change and ends in a result of which something is told. -/
structure Performs (s : Settings) (check : Bool) (fs : FileSystem) (task : Task) (δ : Change) (told : Result → Prop) : Prop where
  takes : δ.Takes fs (rewriteFile s check fs task.1 task.2).files
  ends : ∃ r, (rewriteFile s check fs task.1 task.2).result = .ok r ∧ told r

/-- Each file is rewritten as it would be alone: while it is ready the change it makes is the same, others leave it ready, and what
two of them set they set alike. -/
structure Independent {α : Type} (s : Settings) (check : Bool) (task : α → Task) (change : α → Change) (Told : α → Result → Prop)
    (Ready : α → FileSystem → Prop) : Prop where
  performs : ∀ {a fs}, Ready a fs → Performs s check fs (task a) (change a) (Told a)
  keeps : ∀ {a b fs after}, a ≠ b → Ready a fs → Ready b fs → (change a).Takes fs after → Ready b after
  agrees : ∀ {a b fs}, a ≠ b → Ready a fs → Ready b fs → (change a).Agrees (change b)

variable {α : Type} {s : Settings} {check : Bool} {fs : FileSystem} {task : α → Task} {change : α → Change}
  {Told : α → Result → Prop} {Ready : α → FileSystem → Prop}

/-- A run goes on from what its first file leaves. -/
theorem rewriteFiles_cons {first : Task} {r : Result} (h : (rewriteFile s check fs first.1 first.2).result = .ok r)
    (rest : List Task) :
    (rewriteFiles s check fs (first :: rest)).files =
        (rewriteFiles s check (rewriteFile s check fs first.1 first.2).files rest).files ∧
      (rewriteFiles s check fs (first :: rest)).result =
        (rewriteFiles s check (rewriteFile s check fs first.1 first.2).files rest).result.map (r :: ·) := by
  obtain ⟨input, output?⟩ := first
  rw [rewriteFiles]
  split
  · rename_i after notices error hout
    rw [hout] at h
    cases h
  · rename_i after notices result hout
    rw [hout] at h ⊢
    cases h
    exact ⟨rfl, rfl⟩

/-- A run ends with a file that stops it. -/
theorem rewriteFiles_of_error {first : Task} {error : Files.Error}
    (h : (rewriteFile s check fs first.1 first.2).result = .error error) (rest : List Task) :
    (rewriteFiles s check fs (first :: rest)).files = (rewriteFile s check fs first.1 first.2).files ∧
      (rewriteFiles s check fs (first :: rest)).result = .error error := by
  obtain ⟨input, output?⟩ := first
  rw [rewriteFiles]
  split
  · rename_i after notices error' hout
    rw [hout] at h ⊢
    cases h
    exact ⟨rfl, rfl⟩
  · rename_i after notices result hout
    rw [hout] at h
    cases h

/-- A run over two files has their results. -/
theorem rewriteFiles_pair {first second : Task} {r r' : Result} (h : (rewriteFile s check fs first.1 first.2).result = .ok r)
    (h' : (rewriteFile s check (rewriteFile s check fs first.1 first.2).files second.1 second.2).result = .ok r') :
    (rewriteFiles s check fs [first, second]).result = .ok [r, r'] := by
  rw [(rewriteFiles_cons h _).2, (rewriteFiles_cons h' _).2]
  rfl

/-- A run makes the changes of all its files, one after another, and has a result for each. -/
theorem Independent.run (h : Independent s check task change Told Ready) {order : List α} (hnodup : order.Nodup)
    (hready : ∀ a ∈ order, Ready a fs) :
    (Change.all (order.map change)).Takes fs (rewriteFiles s check fs (order.map task)).files ∧
      ∃ results, (rewriteFiles s check fs (order.map task)).result = .ok results ∧ List.Forall₂ Told order results := by
  induction order generalizing fs with
  | nil => exact ⟨Change.Takes.refl fs, [], rfl, .nil⟩
  | cons a order ih =>
    obtain ⟨ha, hnodup⟩ := List.nodup_cons.mp hnodup
    obtain ⟨hfirst, hrest⟩ := List.forall_mem_cons.mp hready
    obtain ⟨htakes, r, hr, htold⟩ := h.performs hfirst
    obtain ⟨hfiles, hresult⟩ := rewriteFiles_cons hr (order.map task)
    have hkept : ∀ b ∈ order, Ready b (rewriteFile s check fs (task a).1 (task a).2).files := fun b hb =>
      h.keeps (ne_of_mem_of_not_mem hb ha).symm hfirst (hrest b hb) htakes
    obtain ⟨hothers, results, hresults, htolds⟩ := ih hnodup hkept
    refine ⟨?_, r :: results, ?_, .cons htold htolds⟩
    · rw [List.map_cons, List.map_cons, hfiles]
      exact htakes.andThen hothers
    · rw [List.map_cons, hresult, hresults]
      rfl

/-- All changes of a run agree. -/
theorem Independent.pairwise_agrees (h : Independent s check task change Told Ready) {order : List α} (hnodup : order.Nodup)
    (hready : ∀ a ∈ order, Ready a fs) : (order.map change).Pairwise Change.Agrees := by
  rw [List.pairwise_map]
  exact hnodup.imp_of_mem fun {a b} ha hb hne => h.agrees hne (hready a ha) (hready b hb)

/-- In another order the same files leave the same file system. -/
theorem Independent.files_of_perm (h : Independent s check task change Told Ready) {found order : List α} (hnodup : found.Nodup)
    (hready : ∀ a ∈ found, Ready a fs) (horder : order.Perm found) :
    (rewriteFiles s check fs (order.map task)).files = (rewriteFiles s check fs (found.map task)).files := by
  have hnodup' := horder.nodup_iff.mpr hnodup
  have hready' : ∀ a ∈ order, Ready a fs := fun a ha => hready a (horder.subset ha)
  have htakes := (h.run hnodup hready).1
  have htakes' := (h.run hnodup' hready').1
  refine FileSystem.ext (htakes'.standing.trans htakes.standing.symm) fun m => ?_
  rw [htakes.get?, htakes'.get?]
  congr 1
  refine Option.ext fun e => ?_
  rw [Change.all_eq_some_iff (h.pairwise_agrees hnodup hready), Change.all_eq_some_iff (h.pairwise_agrees hnodup' hready')]
  simp only [List.mem_map, exists_exists_and_eq_and, horder.mem_iff]

end ClassChain.Rewrite

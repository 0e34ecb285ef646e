import ClassChain.Proofs.Files.Ensure
import ClassChain.Proofs.Files.Paving
import ClassChain.Proofs.Rewrite.Answer

/-!
# What a failure leaves

A rewriting can fail when the file is read, when the directories above the output are made, and when the output is written or copied.
A write and a copy that fail have changed nothing, so the directories made before are all that a failure can leave
(`paved_of_error`). When the file cannot be read, not even these are made (`files_of_unread`). So a failed rewriting spares all files
(`rewriteFile_spares`), whatever links stand on the way. A directory that it leaves is where the path to the output leads on its way,
and need not be above the output: the path can lead out of it again (`directory_beside_output`).
-/

namespace ClassChain.Rewrite

open Files (Path FileSystem Location Name Entry)

section

variable {s : Settings} {check : Bool} {fs : FileSystem} {input output : Path} {output? : Option Path}

theorem paved_prepare (fs : FileSystem) (input output : Path) : fs.Paved (prepare fs input output).files output.parent := by
  unfold prepare
  split
  · exact .refl fs _
  · exact FileSystem.paved_ensure fs output.parent

/-- An effort that met with an error has at most made directories above the output. -/
theorem paved_of_error {error : Files.Error} (h : (effort s check fs input output).error? = some error) :
    fs.Paved (effort s check fs input output).files output.parent := by
  unfold effort at h ⊢
  split at h
  · exact .refl fs _
  · split at h
    · cases h
    · rename_i verdict _ hcheck
      rw [if_neg hcheck]
      have hmade := paved_prepare fs input output
      have hcases := delivers fs input output verdict.code?
      generalize deliver fs input output verdict.code? = done at h hcases ⊢
      cases hcases with
      | stopped hprepare => rwa [hprepare] at hmade
      | refused hprepare => rwa [hprepare] at hmade
      | done => cases h

/-- A file that should be read and cannot be leaves all as it is. -/
theorem files_of_unread (haccepts : s.accepts input.text = true) (hunread : ∀ text, fs.readText input ≠ .ok text) :
    (effort s check fs input output).files = fs := by
  have hinspect : ∃ error, inspect s fs input = .error error := by
    cases hread : fs.readText input with
    | ok text => exact absurd hread (hunread text)
    | error error => exact ⟨error, by rw [inspect, if_pos haccepts, hread]; rfl⟩
  obtain ⟨error, herror⟩ := hinspect
  rw [effort, herror]

/-- A rewriting that does not succeed leaves every file as it was, and makes none: only directories can be new, where nothing stood on
the way to the output. A check, and a file that should be read and cannot be, leave all as it was. A rewriting has a result unless it
stops the run. -/
theorem rewriteFile_spares (s : Settings) (check : Bool) (fs : FileSystem) (hinput : input.hasNull = false)
    (houtput : (output?.getD input).hasNull = false) :
    ((∀ r, (rewriteFile s check fs input output?).result = .ok r → r.status = false) →
      (∀ l content, (rewriteFile s check fs input output?).files.get? l = some (.file content) ↔
        fs.get? l = some (.file content)) ∧
      fs.Paved (rewriteFile s check fs input output?).files (output?.getD input).parent) ∧
    (check = true ∨ s.accepts input.text = true ∧ (∀ text, fs.readText input ≠ .ok text) →
      (rewriteFile s check fs input output?).files = fs) ∧
    ((∃ r, (rewriteFile s check fs input output?).result = .ok r) ∨
      Stops s check fs input (output?.getD input) ∧
        (rewriteFile s check fs input output?).result = .error (.tooDeep .making)) := by
  refine ⟨fun hfailed => ?_, fun hidle => ?_, ?_⟩
  · have herror : ∃ error, (effort s check fs input (output?.getD input)).error? = some error := by
      rw [← Option.ne_none_iff_exists']
      intro hnone
      have hexpected : ∀ error, (effort s check fs input (output?.getD input)).error? = some error → error.isExpected = true := by
        simp [hnone]
      have hstatus := hfailed _ (rewriteFile_eq_answer hexpected).2
      rw [answer, hnone] at hstatus
      cases hstatus
    obtain ⟨error, herror⟩ := herror
    have hpaved := paved_of_error herror
    rw [← (rewriteFile_eq_effort s check fs input output?).1] at hpaved
    exact ⟨fun l content => hpaved.file_iff, hpaved⟩
  · rcases hidle with rfl | ⟨haccepts, hunread⟩
    · exact files_of_check s fs input output?
    · rw [(rewriteFile_eq_effort s check fs input output?).1]
      exact files_of_unread haccepts hunread
  · by_cases hstop : Stops s check fs input (output?.getD input)
    · exact Or.inr ⟨hstop, hstop.rewriteFile.2⟩
    · exact Or.inl ⟨_, (rewriteFile_eq_answer fun _ => isExpected_of_effort hinput houtput hstop).2⟩

end

namespace Sample

/-- A file and nothing else. -/
def lone : FileSystem := FileSystem.empty.putFile [plain] (Text.Utf8.encode "z")

/-- The path of the file. -/
def plainPath : Path := ⟨.standing, [.into plain]⟩

/-- Another path to it, by way of a directory that is not there. -/
def roundaboutPath : Path := ⟨.standing, [.into missing, .up, .into plain]⟩

/-- The directory on the way is made. -/
theorem prepare_lone : prepare lone plainPath roundaboutPath = ⟨lone.makeDirectory [missing], none⟩ := by
  have hstart : lone.follow false (⟨.standing, []⟩ : Path).route = .ok (.directory []) :=
    FileSystem.follow_standing (by decide)
  have hlegal : ((⟨.standing, []⟩ : Path).through [.into missing, .up]).Legal := ⟨by decide, by decide⟩
  have hnone : lone.get? [missing] = none := by decide
  have hopen : lone.isOpen [] [.into missing, .up] = true := by decide
  have hplaces : lone.openPlaces [] [.into missing, .up] = [[missing]] := by decide
  have hreach : ¬ lone.OutOfReach ((⟨.standing, []⟩ : Path).through [.into missing, .up]) := fun hlacks =>
    absurd (FileSystem.length_of_lacks hlacks) (by decide)
  have hensured := FileSystem.ensure_through hstart hlegal (by simp [Files.places, hnone]) hreach
  have hfree : lone.isFree ([] ++ [missing]) = true := FileSystem.isFree_of_absent lone.get?_root hnone (by decide)
  have htakes : (Files.Change.directories [[missing]]).Takes lone (lone.makeDirectory [missing]) :=
    FileSystem.takes_makeDirectory hfree
  have hfiles : (lone.ensure roundaboutPath.parent).files = lone.makeDirectory [missing] := by
    refine FileSystem.ext (hensured.takes.standing.trans htakes.standing.symm) fun m => ?_
    rw [htakes.get?, ← hplaces]
    exact hensured.takes.get? m
  rw [prepare, if_neg (by decide), ← hfiles]
  exact FileSystem.Attempt.eq_of_made (hensured.made hopen)

theorem get?_made : (lone.makeDirectory [missing]).get? [missing] = some .directory := by decide

/-- Then both paths lead to the file. -/
theorem resolve_made : (lone.makeDirectory [missing]).resolve plainPath = .ok (.file [plain] (Text.Utf8.encode "z")) ∧
    (lone.makeDirectory [missing]).resolve roundaboutPath = .ok (.file [plain] (Text.Utf8.encode "z")) := by
  have hfile : (lone.makeDirectory [missing]).get? [plain] = some (.file (Text.Utf8.encode "z")) := by decide
  have hstart : (lone.makeDirectory [missing]).follow false (⟨.standing, []⟩ : Path).route = .ok (.directory []) :=
    FileSystem.follow_standing (by decide)
  have haround : (lone.makeDirectory [missing]).follow false ((⟨.standing, []⟩ : Path).through [.into missing, .up]).route =
      .ok (.directory []) := FileSystem.follow_through_places hstart (by simp [Files.places, get?_made])
  rw [FileSystem.resolve_of_not_long (by decide), FileSystem.resolve_of_not_long (by decide)]
  exact ⟨FileSystem.follow_append_of_file false hstart hfile, FileSystem.follow_append_of_file false haround hfile⟩

/-- So a copy is refused. -/
theorem effort_lone : effort {} false lone plainPath roundaboutPath =
    ⟨lone.makeDirectory [missing], some (.sameFile plainPath roundaboutPath false)⟩ := by
  have haccepts : ({} : Settings).accepts plainPath.text = false := by decide
  have hinspect : inspect {} lone plainPath = .ok .skipped := by rw [inspect, haccepts, if_neg (by simp)]
  have hdir : (lone.makeDirectory [missing]).isDirectory roundaboutPath = false := by
    rw [FileSystem.isDirectory, resolve_made.2, Bool.and_false]
  have hsame : (lone.makeDirectory [missing]).same plainPath roundaboutPath = true := by
    simp [FileSystem.same, FileSystem.locate?, resolve_made]
  have hcopy := FileSystem.copy_of_same (by rw [hdir]; rfl) (by decide) (by decide) hsame
  rw [hdir] at hcopy
  have hwritten : writeOut (lone.makeDirectory [missing]) plainPath roundaboutPath none =
      .error (.sameFile plainPath roundaboutPath false) := by
    rw [writeOut, if_neg (by decide)]
    exact hcopy
  rw [effort, hinspect]
  exact (deliver_of_prepare prepare_lone).trans (by rw [hwritten])

/-- The file is told to have failed, and the directory is there. -/
theorem rewritten_lone :
    (rewriteFile {} false lone plainPath (some roundaboutPath)).files = lone.makeDirectory [missing] ∧
      ∃ r, (rewriteFile {} false lone plainPath (some roundaboutPath)).result = .ok r ∧ r.status = false := by
  have hexpected : ∀ error, (effort {} false lone plainPath ((some roundaboutPath).getD plainPath)).error? = some error →
      error.isExpected = true := by
    rw [Option.getD_some, effort_lone]
    rintro error ⟨⟩
    rfl
  obtain ⟨hfiles, hanswer⟩ := rewriteFile_eq_answer hexpected
  rw [Option.getD_some, effort_lone] at hfiles
  refine ⟨hfiles, _, hanswer, ?_⟩
  rw [Option.getD_some, answer, effort_lone]
  rfl

end Sample

theorem rewriteFile_spares_roundabout :
    (Sample.plainPath.hasNull = false ∧ ((some Sample.roundaboutPath).getD Sample.plainPath).hasNull = false ∧
      ∀ r, (rewriteFile {} false Sample.lone Sample.plainPath (some Sample.roundaboutPath)).result = .ok r → r.status = false) ∧
    ∀ l content,
      (rewriteFile {} false Sample.lone Sample.plainPath (some Sample.roundaboutPath)).files.get? l = some (.file content) ↔
        Sample.lone.get? l = some (.file content) := by
  have hinput : Sample.plainPath.hasNull = false := by decide
  have houtput : ((some Sample.roundaboutPath).getD Sample.plainPath).hasNull = false := by decide
  obtain ⟨-, r, hresult, hstatus⟩ := Sample.rewritten_lone
  have hfailed : ∀ r, (rewriteFile {} false Sample.lone Sample.plainPath (some Sample.roundaboutPath)).result = .ok r →
      r.status = false := by
    intro r' hresult'
    obtain rfl : r' = r := Except.ok.inj (hresult'.symm.trans hresult)
    exact hstatus
  exact ⟨⟨hinput, houtput, hfailed⟩, ((rewriteFile_spares {} false Sample.lone hinput houtput).1 hfailed).1⟩

/-- A failed rewriting leaves a directory that is not above the place to which the path to its output leads. -/
theorem directory_beside_output :
    Sample.plainPath.hasNull = false ∧ Sample.roundaboutPath.hasNull = false ∧
      (∃ r, (rewriteFile {} false Sample.lone Sample.plainPath (some Sample.roundaboutPath)).result = .ok r ∧ r.status = false) ∧
      (rewriteFile {} false Sample.lone Sample.plainPath (some Sample.roundaboutPath)).files.locate? Sample.roundaboutPath =
        some [Sample.plain] ∧
      Sample.lone.get? [Sample.missing] = none ∧
      (rewriteFile {} false Sample.lone Sample.plainPath (some Sample.roundaboutPath)).files.get? [Sample.missing] =
        some .directory ∧
      ¬ [Sample.missing] <+: [Sample.plain] := by
  obtain ⟨hfiles, hfailed⟩ := Sample.rewritten_lone
  refine ⟨by decide, by decide, hfailed, ?_, by decide, ?_, by decide⟩
  · rw [hfiles, FileSystem.locate?, Sample.resolve_made.2]
  · rw [hfiles, Sample.get?_made]

end ClassChain.Rewrite

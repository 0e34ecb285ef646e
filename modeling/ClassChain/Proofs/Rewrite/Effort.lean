import ClassChain.Proofs.Files.Reach
import ClassChain.Rewrite.File

/-!
# What becomes of a rewriting

What becomes of the files in a rewriting is its `effort`: nothing when the input cannot be read, nothing on a check, and else the
delivery. The result tells of it (`answer`), unless the effort ends in an error that no one expects (`rewriteFile_eq_effort`). Between
paths without a null character there is one such error, of an output above which more is missing than can be made (`Stops`,
`isExpected_of_effort`).
-/

namespace ClassChain.Rewrite

open Files (Path FileSystem)

variable {s : Settings} {check : Bool} {fs : FileSystem} {input output : Path} {output? : Option Path}

/-! ## One rewriting -/

/-- What becomes of the files, and the error that stopped it; a file that cannot be read and a check leave all as it is. -/
def effort (s : Settings) (check : Bool) (fs : FileSystem) (input output : Path) : FileSystem.Attempt :=
  match inspect s fs input with
  | .error error => ⟨fs, some error⟩
  | .ok verdict => if check then ⟨fs, none⟩ else deliver fs input output verdict.code?

/-- The new code for a file, if the hook has any. -/
def hookCode? (s : Settings) (fs : FileSystem) (input : Path) : Option String :=
  match inspect s fs input with
  | .ok verdict => verdict.code?
  | .error _ => none

/-- What is told of a rewriting. -/
def answer (s : Settings) (check : Bool) (fs : FileSystem) (input output : Path) : Result where
  input := input
  output := output
  eligible := s.accepts input.text
  changed := (hookCode? s fs input).isSome
  status := (effort s check fs input output).error?.isNone
  message? := (effort s check fs input output).error?.bind (failureMessage? input)

/-- Every error that is expected is told of, and no other. -/
theorem isSome_failureMessage? {error : Files.Error} : (failureMessage? input error).isSome = error.isExpected := by
  cases error <;> rfl

/-- A rewriting that ends with an error goes into the result, if the error can be told of. -/
theorem Outcome.result_fail (fs : FileSystem) (notices : List Notice) (result : Result) (error : Files.Error) :
    (Outcome.fail fs notices result error).result =
      if error.isExpected then .ok { result with status := false, message? := failureMessage? result.input error }
      else .error error := by
  have htold : (failureMessage? result.input error).isSome = error.isExpected := isSome_failureMessage?
  unfold Outcome.fail
  rw [← htold]
  cases failureMessage? result.input error <;> rfl

/-- The rewriting of a file is the effort; it is told of unless it ends in an error of which nothing is told. -/
theorem rewriteFile_eq_effort (s : Settings) (check : Bool) (fs : FileSystem) (input : Path) (output? : Option Path) :
    (rewriteFile s check fs input output?).files = (effort s check fs input (output?.getD input)).files ∧
      (rewriteFile s check fs input output?).result =
        match (effort s check fs input (output?.getD input)).error?.filter fun error => !error.isExpected with
        | some error => .error error
        | none => .ok (answer s check fs input (output?.getD input)) := by
  unfold answer hookCode? effort rewriteFile
  cases hinspect : inspect s fs input with
  | error error =>
    refine ⟨Outcome.files_fail .., ?_⟩
    rw [Outcome.result_fail]
    cases hexpected : error.isExpected <;> simp [Option.filter, hexpected]
  | ok verdict =>
    cases check with
    | true => exact ⟨rfl, rfl⟩
    | false =>
      simp only [Bool.false_eq_true, if_false]
      generalize deliver fs input (output?.getD input) verdict.code? = done
      obtain ⟨after, error?⟩ := done
      cases error? with
      | none => exact ⟨rfl, rfl⟩
      | some error =>
        refine ⟨Outcome.files_fail .., ?_⟩
        dsimp only
        rw [Outcome.result_fail]
        cases hexpected : error.isExpected <;> simp [Option.filter, hexpected]

theorem rewriteFile_eq_answer
    (h : ∀ error, (effort s check fs input (output?.getD input)).error? = some error → error.isExpected = true) :
    (rewriteFile s check fs input output?).files = (effort s check fs input (output?.getD input)).files ∧
      (rewriteFile s check fs input output?).result = .ok (answer s check fs input (output?.getD input)) := by
  obtain ⟨hfiles, hresult⟩ := rewriteFile_eq_effort s check fs input output?
  refine ⟨hfiles, hresult.trans ?_⟩
  rw [Option.filter_eq_none_iff.mpr fun error herror => by simp [h error herror]]

/-- A rewriting that meets with no error is told to have gone well. -/
theorem rewriteFile_of_done {after : FileSystem} (h : effort s check fs input (output?.getD input) = ⟨after, none⟩) :
    (rewriteFile s check fs input output?).files = after ∧
      (rewriteFile s check fs input output?).result =
        .ok ⟨input, output?.getD input, s.accepts input.text, (hookCode? s fs input).isSome, true, none⟩ := by
  obtain ⟨hfiles, hresult⟩ := rewriteFile_eq_effort s check fs input output?
  rw [answer, h] at hresult
  rw [h] at hfiles
  exact ⟨hfiles, hresult⟩

/-- A rewriting that is not told to have failed met with no error. -/
theorem effort_of_success {r : Result} (h : (rewriteFile s check fs input output?).result = .ok r) (hok : r.status = true) :
    (effort s check fs input (output?.getD input)).error? = none ∧ r = answer s check fs input (output?.getD input) := by
  rw [(rewriteFile_eq_effort s check fs input output?).2] at h
  split at h
  · cases h
  · obtain rfl := Except.ok.inj h
    exact ⟨Option.isNone_iff_eq_none.mp hok, rfl⟩

/-- A file that has to be read and whose path has no null character cannot be inspected for an expected reason only. -/
theorem isExpected_of_inspect {error : Files.Error} (hinput : input.hasNull = false) (h : inspect s fs input = .error error) :
    error.isExpected = true := by
  unfold inspect at h
  split at h
  · cases hread : fs.readText input with
    | ok text =>
      rw [hread] at h
      cases h
    | error cause =>
      rw [hread] at h
      cases h
      exact FileSystem.isExpected_of_readText hinput hread
  · cases h

/-- The directories are made above another file than the input. -/
def prepare (fs : FileSystem) (input output : Path) : FileSystem.Attempt :=
  if output = input then ⟨fs, none⟩ else fs.ensure output.parent

/-- New code is written; without any the input is copied, unless the output is the input itself. -/
def writeOut (fs : FileSystem) (input output : Path) : Option String → Except Files.Error FileSystem
  | some code => fs.write output (Text.Utf8.encode code)
  | none => if output = input then .ok fs else fs.copy input output

/-- What can become of a delivery. -/
inductive Delivers (fs : FileSystem) (input output : Path) (code? : Option String) : FileSystem.Attempt → Prop where
  /-- The directories cannot all be made. -/
  | stopped {mid : FileSystem} {error : Files.Error} : prepare fs input output = ⟨mid, some error⟩ →
      Delivers fs input output code? ⟨mid, some error⟩
  /-- The file cannot be written or copied. -/
  | refused {mid : FileSystem} {error : Files.Error} : prepare fs input output = ⟨mid, none⟩ →
      writeOut mid input output code? = .error error → Delivers fs input output code? ⟨mid, some error⟩
  /-- The file is there. -/
  | done {mid after : FileSystem} : prepare fs input output = ⟨mid, none⟩ → writeOut mid input output code? = .ok after →
      Delivers fs input output code? ⟨after, none⟩

/-- A delivery makes the directories and then writes. -/
theorem deliver_eq (fs : FileSystem) (input output : Path) (code? : Option String) :
    deliver fs input output code? =
      match prepare fs input output with
      | ⟨mid, some error⟩ => ⟨mid, some error⟩
      | ⟨mid, none⟩ =>
        match writeOut mid input output code? with
        | .ok after => ⟨after, none⟩
        | .error error => ⟨mid, some error⟩ := by
  unfold deliver prepare
  cases code? <;> rfl

theorem deliver_of_prepare {mid : FileSystem} {code? : Option String} (h : prepare fs input output = ⟨mid, none⟩) :
    deliver fs input output code? =
      match writeOut mid input output code? with
      | .ok after => ⟨after, none⟩
      | .error error => ⟨mid, some error⟩ := by
  rw [deliver_eq, h]

theorem delivers (fs : FileSystem) (input output : Path) (code? : Option String) :
    Delivers fs input output code? (deliver fs input output code?) := by
  rw [deliver_eq]
  cases hprepare : prepare fs input output with
  | mk mid error? =>
    cases error? with
    | some error => exact .stopped hprepare
    | none =>
      dsimp only
      cases hwritten : writeOut mid input output code? with
      | ok after => exact .done hprepare hwritten
      | error error => exact .refused hprepare hwritten

/-- An effort without an error has written the new code, or copied the file when there is none. -/
theorem writeOut_of_effort (h : (effort s false fs input output).error? = none) :
    ∃ mid, prepare fs input output = ⟨mid, none⟩ ∧
      writeOut mid input output (hookCode? s fs input) = .ok (effort s false fs input output).files := by
  unfold effort at h ⊢
  unfold hookCode?
  cases hinspect : inspect s fs input with
  | error error =>
    rw [hinspect] at h
    cases h
  | ok verdict =>
    simp only [hinspect, Bool.false_eq_true, if_false] at h ⊢
    have hcases := delivers fs input output verdict.code?
    generalize deliver fs input output verdict.code? = done at hcases h ⊢
    cases hcases with
    | stopped => cases h
    | refused => cases h
    | done hprepare hwritten => exact ⟨_, hprepare, hwritten⟩

/-! ## Errors that stop a run -/

/-- The rewriting of a file stops the run: the file could be inspected and is to be written elsewhere, and above its output more is
missing than can be made. -/
structure Stops (s : Settings) (check : Bool) (fs : FileSystem) (input output : Path) : Prop where
  writes : check = false
  elsewhere : output ≠ input
  inspected : ∃ verdict, inspect s fs input = .ok verdict
  outOfReach : fs.OutOfReach output.parent

/-- Such an effort leaves all as it was. -/
theorem Stops.effort_eq (h : Stops s check fs input output) :
    effort s check fs input output = ⟨fs, some (.tooDeep .making)⟩ := by
  obtain ⟨verdict, hinspect⟩ := h.inspected
  have hprepare : prepare fs input output = ⟨fs, some (.tooDeep .making)⟩ := by
    rw [prepare, if_neg h.elsewhere]
    exact FileSystem.ensure_of_outOfReach h.outOfReach
  rw [effort, hinspect]
  dsimp only
  rw [if_neg (by simp [h.writes]), deliver_eq, hprepare]

theorem Stops.rewriteFile (h : Stops s check fs input (output?.getD input)) :
    (rewriteFile s check fs input output?).files = fs ∧
      (rewriteFile s check fs input output?).result = .error (.tooDeep .making) := by
  obtain ⟨hfiles, hresult⟩ := rewriteFile_eq_effort s check fs input output?
  rw [h.effort_eq] at hfiles hresult
  exact ⟨hfiles, hresult⟩

theorem isExpected_of_prepare {error : Files.Error} (houtput : output.hasNull = false)
    (hreach : output ≠ input → ¬ fs.OutOfReach output.parent) (h : (prepare fs input output).error? = some error) :
    error.isExpected = true := by
  unfold prepare at h
  split at h
  · cases h
  · rename_i hne
    rcases FileSystem.ensure_error (Path.hasNull_parent houtput) h with hexpected | rfl
    · exact hexpected
    · exact absurd (FileSystem.ensure_tooDeep_iff.mp h) (hreach hne)

theorem isExpected_of_writeOut {error : Files.Error} {code? : Option String} (hinput : input.hasNull = false)
    (houtput : output.hasNull = false) (h : writeOut fs input output code? = .error error) : error.isExpected = true := by
  cases code? with
  | some code => exact FileSystem.isExpected_of_write houtput h
  | none =>
    rw [writeOut] at h
    split at h
    · cases h
    · exact FileSystem.isExpected_of_copy hinput houtput h

/-- An effort between plain paths that does not stop the run ends in an error that can be told of, if in any. -/
theorem isExpected_of_effort {error : Files.Error} (hinput : input.hasNull = false) (houtput : output.hasNull = false)
    (hgoes : ¬ Stops s check fs input output) (h : (effort s check fs input output).error? = some error) :
    error.isExpected = true := by
  unfold effort at h
  split at h
  · rename_i herror
    cases h
    exact isExpected_of_inspect hinput herror
  · rename_i verdict hinspect
    split at h
    · cases h
    · rename_i hcheck
      have hreach : output ≠ input → ¬ fs.OutOfReach output.parent := fun hne hreach =>
        hgoes ⟨by simpa using hcheck, hne, ⟨verdict, hinspect⟩, hreach⟩
      have hcases := delivers fs input output verdict.code?
      generalize deliver fs input output verdict.code? = done at h hcases
      cases hcases with
      | stopped hprepare => exact isExpected_of_prepare houtput hreach (by rw [hprepare]; exact h)
      | refused _ hwritten =>
        cases h
        exact isExpected_of_writeOut hinput houtput hwritten
      | done => cases h

/-- What is told of a rewriting that does not stop the run has a message exactly when it failed. -/
theorem isSome_message?_answer (hinput : input.hasNull = false) (houtput : output.hasNull = false)
    (hgoes : ¬ Stops s check fs input output) :
    (answer s check fs input output).message?.isSome = true ↔ (answer s check fs input output).status = false := by
  have hexpected := fun error => @isExpected_of_effort s check fs input output error hinput houtput hgoes
  unfold answer
  dsimp only
  cases herror : (effort s check fs input output).error? with
  | none => simp
  | some error => simp [isSome_failureMessage?, hexpected error herror]

end ClassChain.Rewrite

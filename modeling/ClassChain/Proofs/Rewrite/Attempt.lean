import ClassChain.Proofs.Document.LineEnd
import ClassChain.Proofs.Files.Writing
import ClassChain.Proofs.Rewrite.Answer

/-!
# One rewriting

What comes of rewriting a file is told by the content of the file and by what became of its delivery. The hook makes new code of the
content, or leaves it alone, or the content cannot be read (`newCode?`, `fault?`). Then nothing is written, or the delivery is tried
(`attempt`), and the result says how it came out (`told`): `rewriteFile_eq_attempt`.

New code is never written with the bytes that were read (`encode_ne_of_newCode?`).
-/

namespace ClassChain.Rewrite

open Files (Path FileSystem Location Change)

variable {s : Settings} {check : Bool} {fs : FileSystem} {input output : Path} {output? : Option Path} {l : Location}
  {content : ByteArray}

/-- What the hook makes of a file with the content. -/
def judge (s : Settings) (input : Path) (content : ByteArray) : Except Files.Error Hook.Verdict :=
  if s.accepts input.text then
    if input.IsLong then .error (.refused .nameTooLong input)
    else do return Hook.transform s (← FileSystem.textOf content) input.text
  else .ok .skipped

/-- The new code for a file with the content, if there is any. -/
def newCode? (s : Settings) (input : Path) (content : ByteArray) : Option String :=
  match judge s input content with
  | .ok verdict => verdict.code?
  | .error _ => none

/-- Why a file with the content cannot be read as text, if it should be. -/
def fault? (s : Settings) (input : Path) (content : ByteArray) : Option Files.Error :=
  match judge s input content with
  | .ok _ => none
  | .error error => some error

/-- What is told of a file with the content. -/
def told (s : Settings) (input output : Path) (content : ByteArray) (error? : Option Files.Error) : Result where
  input := input
  output := output
  eligible := s.accepts input.text
  changed := (newCode? s input content).isSome
  status := error?.isNone
  message? := error?.bind (failureMessage? input)

/-- What becomes of the files: a check and a file that cannot be read leave them alone. -/
def attempt (s : Settings) (check : Bool) (fs : FileSystem) (input output : Path) (content : ByteArray) : FileSystem.Attempt :=
  match fault? s input content with
  | some error => ⟨fs, some error⟩
  | none => if check then ⟨fs, none⟩ else deliver fs input output (newCode? s input content)

/-! ## The hook on a file -/

theorem inspect_eq_judge (hnull : input.hasNull = false) (h : fs.follow false input.route = .ok (.file l content)) :
    inspect s fs input = judge s input content := by
  have hread : fs.readText input = if input.IsLong then .error (.refused .nameTooLong input) else FileSystem.textOf content := by
    rw [FileSystem.readText, FileSystem.readBytes_of_file hnull h]
    split <;> rfl
  rw [inspect, judge, hread]
  split
  · split <;> rfl
  · rfl

/-- A file that cannot be read fails for an expected reason. -/
theorem isExpected_of_fault? {error : Files.Error} (h : fault? s input content = some error) : error.isExpected = true := by
  unfold fault? judge at h
  split at h
  · cases h
  · rename_i error' herror
    cases h
    split at herror
    · split at herror
      · cases herror
        rfl
      · cases htext : FileSystem.textOf content with
        | error cause =>
          rw [htext] at herror
          cases herror
          exact FileSystem.isExpected_of_textOf htext
        | ok text =>
          rw [htext] at herror
          cases herror
    · cases herror

theorem newCode?_of_fault? {error : Files.Error} (h : fault? s input content = some error) : newCode? s input content = none := by
  unfold fault? at h
  unfold newCode?
  cases hjudge : judge s input content with
  | ok verdict =>
    rw [hjudge] at h
    cases h
  | error error => rfl

/-- There is new code when the hook takes the file, its text can be read, and its expansion is another text. -/
theorem newCode?_eq_some_iff {code : String} :
    newCode? s input content = some code ↔ s.accepts input.text = true ∧ ¬ input.IsLong ∧
      ∃ text, FileSystem.textOf content = .ok text ∧ Document.expandText (s.modeOf input.text) text ≠ text ∧
        code = Document.expandText (s.modeOf input.text) text := by
  unfold newCode? judge
  by_cases haccepts : s.accepts input.text = true
  · by_cases hlong : input.IsLong
    · simp [haccepts, hlong]
    · cases htext : FileSystem.textOf content with
      | error error => simp [haccepts, hlong, bind, Except.bind]
      | ok text => simp [haccepts, hlong, bind, Except.bind, pure, Except.pure, Hook.code?_eq_some_iff]
  · simp [haccepts, Hook.Verdict.code?]

/-- A file cannot be read when the hook takes it and its path is too long or its bytes are no text. -/
theorem isSome_fault?_iff :
    (fault? s input content).isSome = true ↔
      s.accepts input.text = true ∧ (input.IsLong ∨ ∃ fault, Text.Utf8.decode content = .error fault) := by
  unfold fault? judge
  by_cases haccepts : s.accepts input.text = true
  · by_cases hlong : input.IsLong
    · simp [haccepts, hlong]
    · cases hdecode : Text.Utf8.decode content <;>
        simp [haccepts, hlong, FileSystem.textOf, hdecode, bind, Except.bind, pure, Except.pure]
  · simp [haccepts]

/-- The rewriting of a file is the attempt at it, told of. -/
theorem rewriteFile_eq_attempt (s : Settings) (check : Bool) (output? : Option Path) (hnull : input.hasNull = false)
    (h : fs.follow false input.route = .ok (.file l content))
    (hexpected : ∀ error, (attempt s check fs input (output?.getD input) content).error? = some error → error.isExpected = true) :
    (rewriteFile s check fs input output?).files = (attempt s check fs input (output?.getD input) content).files ∧
      (rewriteFile s check fs input output?).result =
        .ok (told s input (output?.getD input) content (attempt s check fs input (output?.getD input) content).error?) := by
  have hinspect := inspect_eq_judge (s := s) hnull h
  have heffort : effort s check fs input (output?.getD input) = attempt s check fs input (output?.getD input) content := by
    unfold effort attempt fault? newCode?
    rw [hinspect]
    cases judge s input content <;> rfl
  have hcode : hookCode? s fs input = newCode? s input content := by
    cases hjudge : judge s input content <;> simp [hookCode?, newCode?, hinspect, hjudge]
  have hanswer := rewriteFile_eq_answer fun error herror => hexpected error (heffort ▸ herror)
  rw [answer, hcode, heffort] at hanswer
  exact hanswer

end ClassChain.Rewrite

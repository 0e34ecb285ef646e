import ClassChain.Files.Operation
import ClassChain.Hook

/-!
# Rewriting a file

The hook is run on a file, and what it answers with is written in place or to another file; a file that the hook leaves alone is
copied there as it is. A check stops before anything is written. What goes wrong with a file is told in its result; only two things
stop the run: a path that is no path at all, and an output above which more directories are missing than can be made in one go.

`files_of_check` says that a check leaves the file system as it was.
-/

namespace ClassChain.Rewrite

open Files (Path FileSystem)

/-- How the rewriting of a file came out. -/
structure Result where
  /-- The file read. -/
  input : Path
  /-- Where the rewritten file is, or would be. -/
  output : Path
  /-- The hook rewrites files of this kind. -/
  eligible : Bool
  /-- The hook had new code. -/
  changed : Bool
  /-- The file could be read and written. -/
  status : Bool
  /-- Why it could not. -/
  message? : Option String
  deriving DecidableEq, Repr

/-- What a run left: the file system, what it logged, and its result or the error that stopped it. -/
structure Outcome (α : Type) where
  files : FileSystem
  notices : List Notice
  result : Except Files.Error α

/-- What is said of a file that could not be rewritten; nothing of a path that is no path, and nothing where calls stand too deep. -/
def failureMessage? (input : Path) : Files.Error → Option String
  | .undecodable _ => some ("File is not valid UTF-8: " ++ input.text)
  | .nullCharacter | .tooDeep _ => none
  | error => some ("Error rewriting file " ++ input.text ++ ": " ++ error.message)

/-- Ends a rewriting with an error. -/
def Outcome.fail (fs : FileSystem) (notices : List Notice) (result : Result) (error : Files.Error) : Outcome Result :=
  match failureMessage? result.input error with
  | some message => ⟨fs, notices ++ [.failed message], .ok { result with status := false, message? := some message }⟩
  | none => ⟨fs, notices, .error error⟩

/-- What the hook makes of a file; a file that it does not rewrite is not read. -/
def inspect (s : Settings) (fs : FileSystem) (input : Path) : Except Files.Error Hook.Verdict :=
  if s.accepts input.text then do return Hook.transform s (← fs.readText input) input.text else .ok .skipped

/-- What is logged of the hook's answer; a file that it does not rewrite is passed over in silence. -/
def verdictNotices (input : Path) : Hook.Verdict → List Notice
  | .skipped => []
  | verdict => verdict.notices input.text

/-- The file system after new code went to a file, or after a copy when there is none; above another file than the input the
directories are made first. -/
def deliver (fs : FileSystem) (input output : Path) (code? : Option String) : FileSystem.Attempt :=
  match if output = input then ⟨fs, none⟩ else fs.ensure output.parent with
  | ⟨fs, some error⟩ => ⟨fs, some error⟩
  | ⟨fs, none⟩ =>
    let written : Except Files.Error FileSystem :=
      match code? with
      | some code => fs.write output (Text.Utf8.encode code)
      | none => if output = input then .ok fs else fs.copy input output
    match written with
    | .ok after => ⟨after, none⟩
    | .error error => ⟨fs, some error⟩

/-- Rewrites a file, in place unless an output is given. -/
def rewriteFile (s : Settings) (check : Bool) (fs : FileSystem) (input : Path) (output? : Option Path) : Outcome Result :=
  let output := output?.getD input
  let result : Result := ⟨input, output, s.accepts input.text, false, true, none⟩
  match inspect s fs input with
  | .error error => .fail fs [] result error
  | .ok verdict =>
    let result := { result with changed := verdict.code?.isSome }
    let notices := verdictNotices input verdict
    if check then ⟨fs, notices, .ok result⟩
    else
      match deliver fs input output verdict.code? with
      | ⟨after, none⟩ =>
        ⟨after, notices ++ (if verdict.code?.isSome then [.rewrote input.text output.text] else []), .ok result⟩
      | ⟨after, some error⟩ => .fail after notices result error

@[simp] theorem Outcome.files_fail (fs : FileSystem) (notices : List Notice) (result : Result) (error : Files.Error) :
    (Outcome.fail fs notices result error).files = fs := by
  simp only [Outcome.fail]
  split <;> rfl

/-- A check leaves the file system as it was. -/
theorem files_of_check (s : Settings) (fs : FileSystem) (input : Path) (output? : Option Path) :
    (rewriteFile s true fs input output?).files = fs := by
  simp only [rewriteFile]
  split <;> simp

end ClassChain.Rewrite

import ClassChain.Batch.Arguments
import ClassChain.Program
import ClassChain.Rewrite.Summary
import ClassChain.Rewrite.Tree

/-!
# The batch program

Rewrites an input directory into an output directory, or in place, or only checks what would change; shows the summary, and asks
for status 1 when a file failed or, on a check, when one would change. Before that the arguments are read and the two directories
are seen to.
-/

namespace ClassChain.Batch

open Files (Path FileSystem)

/-- Ends a run that cannot go on, telling why. -/
def giveUp (run : Run) (cause : String) : Run :=
  ({ run with notices := run.notices ++ [.unhandled cause] } : Run).conclude
    [.line (styled "bold red" ("An unexpected error occurred: " ++ cause))] (some 1)

/-- The status of a run: 1 when a file failed, or would change on a check. -/
def status? (check : Bool) (results : List Rewrite.Result) : Option Nat :=
  if 0 < Rewrite.failedCount results ∨ (check ∧ 0 < Rewrite.changedCount results) then some 1 else none

/-- Rewrites the files below a directory and shows the summary. -/
def rewrite (s : Settings) (choices : Choices) (fs : FileSystem) (inputDir outputDir : Path) : Run :=
  let tree := Rewrite.rewriteTree s choices.check fs inputDir (if choices.inplace then none else some outputDir)
  let run : Run := { files := tree.files, notices := tree.notices }
  match tree.result with
  | .error error => giveUp run error.message
  | .ok results =>
    match showAll [.table (Rewrite.summary s choices.check results), .line (Rewrite.countsLine choices.check results)] with
    | ⟨shown, none⟩ => { run with shown, exit? := status? choices.check results }
    | ⟨shown, some fault⟩ => giveUp { run with shown } fault.message

/-- What is shown when a run is interrupted before it begins. -/
def interruptedLine : Display := .line ("\n" ++ styled "bold cyan" "Program interrupted by user. Exiting.")

/-- What is shown on the signal to stop. -/
def stoppedLine : Display := .line ("\n" ++ styled "bold red" "Interrupt received. Exiting.")

/-- The status on the signal to stop. -/
def stoppedStatus : Nat := 0

/-- Makes a directory that is not there yet, and all that are missing above it. -/
def makeNew (fs : FileSystem) (p : Path) : FileSystem.Attempt :=
  match fs.makeOne p with
  | .ok made => ⟨made, none⟩
  | .error (.refused .missing shown) =>
    if p.steps = [] then ⟨fs, some (.refused .missing shown)⟩
    else
      match fs.ensureWithin p.parent (FileSystem.makeLimit - 1) with
      | ⟨above, none⟩ =>
        match above.makeOne p with
        | .ok made => ⟨made, none⟩
        | .error error => ⟨above, some error⟩
      | stopped => stopped
  | .error error => ⟨fs, some error⟩

/-- The run that ends because a path does not lead to a directory. -/
def refusal? (fs : FileSystem) (p : Path) : Option Run :=
  match fs.askDirectory p with
  | .ok true => none
  | .ok false => some { files := fs, stderr := "Not a directory: " ++ p.text ++ "\n", exit? := some 1 }
  | .error error => some { files := fs, escape? := some (.file error) }

/-- Sees to the two directories: the output directory is made unless something stands there, and both must be directories. -/
def prepare (fs : FileSystem) (inputDir outputDir : Path) (work : FileSystem → Run) : Run :=
  let made : FileSystem.Attempt :=
    match fs.askHolds outputDir with
    | .ok true => ⟨fs, none⟩
    | .ok false => makeNew fs outputDir
    | .error error => ⟨fs, some error⟩
  match made with
  | ⟨fs, some error⟩ => { files := fs, escape? := some (.file error) }
  | ⟨fs, none⟩ =>
    match refusal? fs outputDir <|> refusal? fs inputDir with
    | some run => run
    | none => work fs

/-- Runs the program with arguments; `interrupted` says that it is stopped as soon as it goes to work. -/
def run (s : Settings) (interrupted : Bool) (args : List String) (fs : FileSystem) : Run :=
  match withDirectories.parse args with
  | .refused message => { files := fs, stderr := withDirectories.refusal message, exit? := some 2 }
  | .told text => { files := fs, stdout := text, exit? := some 0 }
  | .accepted choices [some input, some output] =>
    let inputDir := Path.ofText input
    let outputDir := Path.ofText output
    prepare fs inputDir outputDir fun fs =>
      if interrupted then ({ files := fs } : Run).conclude [interruptedLine] none
      else rewrite s choices fs inputDir outputDir
  | .accepted _ _ => { files := fs, escape? := some .noPath }

end ClassChain.Batch

import ClassChain.Display
import ClassChain.Files.FileSystem
import ClassChain.Files.Error
import ClassChain.Notice

/-!
# Runs of a program

What one run of a program leaves behind, and what can end it that it does not handle.
-/

namespace ClassChain

/-- What ends a program that does not handle it. -/
inductive Escape where
  /-- Markup with a fault. -/
  | markup (fault : Markup.Fault)
  /-- A file operation that failed. -/
  | file (error : Files.Error)
  /-- Nothing stands where a path is needed. -/
  | noPath
  deriving DecidableEq, Repr

/-- What ended the program, in words. -/
def Escape.message : Escape → String
  | .markup fault => fault.message
  | .file error => error.message
  | .noPath => "expected str, bytes or os.PathLike object, not list"

/-- What a run leaves. -/
structure Run where
  files : Files.FileSystem
  /-- What was logged. -/
  notices : List Notice := []
  /-- What was shown. -/
  shown : List Display := []
  stdout : String := ""
  stderr : String := ""
  /-- The status the program asked for; none if it came to its end. -/
  exit? : Option Nat := none
  /-- What ended the program unhandled. -/
  escape? : Option Escape := none

/-- Shows things at the end of a run, and leaves with a status unless their markup has a fault. -/
def Run.conclude (run : Run) (displays : List Display) (exit? : Option Nat) : Run :=
  let last := showAll displays
  let run := { run with shown := run.shown ++ last.shown }
  match last.fault? with
  | none => { run with exit? }
  | some fault => { run with escape? := some (.markup fault) }

end ClassChain

import ClassChain.Display
import ClassChain.Rewrite.File

/-!
# The summary of a run

A table with a row for every file that failed or changed and, if the settings ask for it, for every other one; below it the
counts. Paths and messages are escaped, since they may look like tags.
-/

namespace ClassChain.Rewrite

/-- The row of a file, if it has one. -/
def row? (s : Settings) (check : Bool) (r : Result) : Option (String × String) :=
  let path := Markup.escape r.input.text
  if !r.status then some (path, styled "bold red" (Markup.escape (r.message?.getD "")))
  else if r.changed then some (path, styled "bold green" (if check then "would expand" else "expanded"))
  else if s.detailed then some (path, styled "dim" (if r.eligible then "unchanged" else "skipped"))
  else none

/-- The table of a run. -/
def summary (s : Settings) (check : Bool) (results : List Result) : Table where
  title := "chainwind"
  columns := ("File", "Status")
  rows := results.filterMap (row? s check)

/-- The number of files that changed or would change. -/
def changedCount (results : List Result) : Nat := results.countP (·.changed)

/-- The number of files that failed. -/
def failedCount (results : List Result) : Nat := results.countP fun r => !r.status

/-- The line of counts below the table. -/
def countsLine (check : Bool) (results : List Result) : String :=
  styled "bold cyan" (toString results.length ++ " files, " ++ toString (changedCount results) ++ " " ++
    (if check then "would change" else "changed") ++ ", " ++ toString (failedCount results) ++ " failed")

end ClassChain.Rewrite

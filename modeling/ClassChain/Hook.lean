import ClassChain.Settings.Basic
import ClassChain.Document.Expansion
import ClassChain.Notice
import ClassChain.Text.Split

/-!
# The transform hook

Which files are rewritten, told by their ids alone: those with an extension on the list that lie under no excluded directory. In
scripts only attribute values are rewritten. The hook answers with code only when the rewriting changed something, so that a
build can skip what did not.

`code?_eq_some_iff` says when the hook answers with code, and with which.
-/

namespace ClassChain

namespace Hook

/-- The name under which a build knows the hook. -/
def name : String := "tailwindcss-chain"

/-- The stage at which a build runs the hook. -/
def stage : String := "pre"

/-- The id ends in a dot and the extension. -/
def hasExtension (id ext : String) : Bool := ('.' :: ext.toList).isSuffixOf id.toList

/-- The first of the longest texts. -/
def longest? : List String → Option String
  | [] => none
  | s :: rest =>
    match longest? rest with
    | none => some s
    | some t => if s.length < t.length then some t else some s

/-- The longest of the extensions that the id has. -/
def extension? (id : String) (extensions : List String) : Option String := longest? (extensions.filter (hasExtension id ·))

/-- The separators of an id, of either kind. -/
def isPathSeparator (c : Char) : Bool := c == '/' || c == '\\'

/-- The names of the directories that the id lies under. -/
def directories (id : String) : List String := ((Text.splitWhere isPathSeparator id.toList).map String.ofList).dropLast

end Hook

open Hook in
/-- The id lies under an excluded directory. -/
def Settings.excludes (s : Settings) (id : String) : Bool := (directories id).any (s.excludedDirs.contains ·)

/-- The file with this id is rewritten. -/
def Settings.accepts (s : Settings) (id : String) : Bool :=
  !s.excludes id && (Hook.extension? id s.fileExtensions).isSome

/-- What of the file with this id is rewritten. -/
def Settings.modeOf (s : Settings) (id : String) : Document.Mode :=
  match Hook.extension? id s.fileExtensions with
  | some ext => if s.scriptExtensions.contains ext then .attributesOnly else .everything
  | none => .everything

namespace Hook

/-- What the hook made of a file. -/
inductive Verdict where
  /-- The file is not rewritten. -/
  | skipped
  /-- There was nothing to write out. -/
  | unchanged
  /-- The code with its chains written out. -/
  | expanded (mode : Document.Mode) (code : String)
  deriving DecidableEq, Repr

/-- The hook on the code of a file with its id. -/
def transform (s : Settings) (code id : String) : Verdict :=
  if s.accepts id then
    let mode := s.modeOf id
    let out := Document.expandText mode code
    if out = code then .unchanged else .expanded mode out
  else .skipped

/-- The new code, if there is any. -/
def Verdict.code? : Verdict → Option String
  | .expanded _ code => some code
  | _ => none

/-- What is logged about a file. -/
def Verdict.notices (id : String) : Verdict → List Notice
  | .skipped => [.skipping id]
  | .unchanged => []
  | .expanded mode _ => [.expanded id mode]

/-- The hook answers with code exactly when the file is rewritten and its expansion is another text, and then with that. -/
theorem code?_eq_some_iff {s : Settings} {code id out : String} :
    (transform s code id).code? = some out ↔
      s.accepts id = true ∧ Document.expandText (s.modeOf id) code ≠ code ∧ out = Document.expandText (s.modeOf id) code := by
  by_cases ha : s.accepts id = true <;> by_cases hu : Document.expandText (s.modeOf id) code = code <;>
    simp [transform, ha, hu, Verdict.code?, eq_comm (a := out)]

end Hook

end ClassChain

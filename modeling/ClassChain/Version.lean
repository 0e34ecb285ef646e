import ClassChain.Text.Blank
import ClassChain.Text.Newline
import ClassChain.Text.Word

/-!
# The version in a source text

A source text states its version on a line that opens with `__version__`: a kind may follow, then an equals sign and the
version in quotes. Blanks may stand between these parts, line ends among them. The first such line counts.
-/

namespace ClassChain.Version

/-- The version of this program. -/
def current : String := "0.1.0"

/-- Passes over blanks. -/
def skip (cs : List Char) : List Char := cs.dropWhile Text.isBlank

/-- Passes over a character if the text opens with it. -/
def skipOne (c : Char) : List Char → List Char
  | [] => []
  | d :: rest => if d = c then rest else d :: rest

/-- Passes over a kind: a colon and a word, perhaps with a word in brackets. A colon alone is no kind. -/
def skipKind (cs : List Char) : List Char :=
  match skip cs with
  | ':' :: rest =>
    match skip rest with
    | c :: word =>
      if Text.isWord c then
        skipOne ']' ((skipOne '[' (word.dropWhile Text.isWord)).dropWhile Text.isWord)
      else cs
    | [] => cs
  | _ => cs

/-- A mark that quotes a version. -/
def isMark (c : Char) : Bool := c == '\'' || c == '"'

/-- The version that text opens with, in quotes of either kind. -/
def quoted? : List Char → Option (List Char)
  | [] => none
  | mark :: rest =>
    let version := rest.takeWhile (!isMark ·)
    if isMark mark ∧ !version.isEmpty ∧ version.length < rest.length then some version else none

/-- The version that is stated where text begins. -/
def statement? (cs : List Char) : Option (List Char) :=
  let name := "__version__".toList
  if name.isPrefixOf cs then
    match skip (skipKind (cs.drop name.length)) with
    | '=' :: rest => quoted? (skip rest)
    | _ => none
  else none

/-- The first version stated where a line begins; `fresh` says that the text itself begins a line. -/
def findFrom (fresh : Bool) : List Char → Option (List Char)
  | [] => none
  | c :: cs =>
    match if fresh then statement? (c :: cs) else none with
    | some version => some version
    | none => findFrom (c = '\n') cs

/-- The version that a source text states. -/
def find? (text : String) : Option String :=
  (findFrom true (Text.unify text.toList)).map String.ofList

/-- Why a file gives no version. -/
inductive Fault where
  /-- There is no such file. -/
  | noFile
  /-- The file states no version. -/
  | unstated
  deriving DecidableEq, Repr

/-- A fault of the file with a name, in words. -/
def Fault.message (file : String) : Fault → String
  | .noFile => "Version file " ++ file ++ " not found."
  | .unstated => "Could not find __version__ in " ++ file

/-- The version that a file states, given its content if it exists. -/
def ofFile (content? : Option String) : Except Fault String :=
  match content? with
  | none => .error .noFile
  | some content =>
    match find? content with
    | none => .error .unstated
    | some version => .ok version

end ClassChain.Version

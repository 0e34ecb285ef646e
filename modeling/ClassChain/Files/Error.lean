import ClassChain.Files.Path
import ClassChain.Text.Utf8

/-!
# What can go wrong with files

The causes that a file system gives for a refusal, with their numbers, and the errors that a file operation ends in.
-/

namespace ClassChain.Files

/-- Why a file system refuses. -/
inductive Cause where
  | missing
  | exists
  | notDirectory
  | isDirectory
  | nameTooLong
  | tooManyLinks
  deriving DecidableEq, Repr

/-- The number by which a cause is known. -/
def Cause.number : Cause → Nat
  | .missing => 2
  | .exists => 17
  | .notDirectory => 20
  | .isDirectory => 21
  | .nameTooLong => 36
  | .tooManyLinks => 40

/-- A cause in words. -/
def Cause.text : Cause → String
  | .missing => "No such file or directory"
  | .exists => "File exists"
  | .notDirectory => "Not a directory"
  | .isDirectory => "Is a directory"
  | .nameTooLong => "File name too long"
  | .tooManyLinks => "Too many levels of symbolic links"

/-- A work that calls itself for one directory after another, each call within the last. -/
inductive Recursion where
  /-- Going down to list what is in a directory. -/
  | listing
  /-- Going up to make what is missing above a directory. -/
  | making
  deriving DecidableEq, Repr

/-- What a file operation can end in. -/
inductive Error where
  /-- The file system refused a path. -/
  | refused (cause : Cause) (path : Path)
  /-- The file system refused to set a link to a target at a path. -/
  | refusedLink (cause : Cause) (target : String) (path : Path)
  /-- A file was to be copied to where a directory should be and none is. -/
  | noDirectory (path : Path)
  /-- A file was to be copied onto itself; `within` says that the target was found inside the directory named. -/
  | sameFile (source target : Path) (within : Bool)
  /-- The bytes of a file are no text. -/
  | undecodable (fault : Text.Utf8.Fault)
  /-- A path with a null character, which is no path at all. -/
  | nullCharacter
  /-- More calls would stand within one another than can. -/
  | tooDeep (work : Recursion)
  deriving DecidableEq, Repr

/-- A path as an error shows it. -/
def shownPath (p : Path) : String := "PosixPath(" ++ Text.quoted p.text ++ ")"

/-- An error in words. -/
def Error.message : Error → String
  | .refused cause path => "[Errno " ++ toString cause.number ++ "] " ++ cause.text ++ ": " ++ Text.quoted path.text
  | .refusedLink cause target path =>
    "[Errno " ++ toString cause.number ++ "] " ++ cause.text ++ ": " ++ Text.quoted target ++ " -> " ++ Text.quoted path.text
  | .noDirectory path => "Directory does not exist: " ++ path.text
  | .sameFile source target within =>
    shownPath source ++ " and " ++ (if within then Text.quoted target.text else shownPath target) ++ " are the same file"
  | .undecodable fault => fault.message
  | .nullCharacter => "embedded null byte"
  | .tooDeep .listing => "maximum recursion depth exceeded"
  | .tooDeep .making => "maximum recursion depth exceeded while calling a Python object"

end ClassChain.Files

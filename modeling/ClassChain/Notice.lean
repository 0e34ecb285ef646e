import ClassChain.Document.Scan

/-!
# Notices

What the program logs, one constructor per event, and the wording of each.
-/

namespace ClassChain

/-- An event that is logged. -/
inductive Notice where
  /-- A file is not rewritten at all. -/
  | skipping (id : String)
  /-- The code of a file was written out. -/
  | expanded (id : String) (mode : Document.Mode)
  /-- A directory was searched for files. -/
  | found (count : Nat) (dir : String)
  /-- Expanded code went to a file. -/
  | rewrote (input output : String)
  /-- A file could not be read or written. -/
  | failed (message : String)
  /-- A run was given up. -/
  | unhandled (cause : String)
  /-- A help page could not be shown. -/
  | unshown (cause : String)
  deriving DecidableEq, Repr

/-- Whether only attribute values are rewritten, in words. -/
def Document.Mode.attributesOnlyText : Document.Mode → String
  | .everything => "False"
  | .attributesOnly => "True"

/-- The line that is logged. -/
def Notice.text : Notice → String
  | .skipping id => "Skipping " ++ id
  | .expanded id mode => "Expanded chained classes in " ++ id ++ " (attributeOnly=" ++ mode.attributesOnlyText ++ ")"
  | .found count dir => "Found " ++ toString count ++ " files under " ++ dir
  | .rewrote input output => "Rewrote " ++ input ++ " -> " ++ output
  | .failed message => message
  | .unhandled cause => "Unhandled exception in async_main: " ++ cause
  | .unshown cause => "Help rendering error: " ++ cause

end ClassChain

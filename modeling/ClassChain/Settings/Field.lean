/-!
# The fields of the settings

Under which names they are given, and what can be wrong with what is given.
-/

namespace ClassChain.Settings

/-- The fields of the settings, in order. -/
inductive Field where
  | quiet
  | detailed
  | fileExtensions
  | scriptExtensions
  | excludedDirs
  deriving DecidableEq, Repr

/-- All fields, in order. -/
def Field.all : List Field := [.quiet, .detailed, .fileExtensions, .scriptExtensions, .excludedDirs]

/-- The name under which a field is given. -/
def Field.name : Field → String
  | .quiet => "beQuiet"
  | .detailed => "detailedOutput"
  | .fileExtensions => "fileExtensions"
  | .scriptExtensions => "scriptExtensions"
  | .excludedDirs => "excludeDirs"

/-- The field holds a list. -/
def Field.isList : Field → Bool
  | .quiet | .detailed => false
  | .fileExtensions | .scriptExtensions | .excludedDirs => true

/-- What is wrong with a value. -/
inductive Defect where
  /-- A word, or a number of 64 bits, that stands for no switch. -/
  | unclearSwitch
  /-- Nothing that could stand for a switch. -/
  | notSwitch
  /-- No list. -/
  | notList
  /-- No text. -/
  | notText
  /-- A name that no field has. -/
  | unknownName
  /-- An attempt to change settings that stand. -/
  | frozen
  deriving DecidableEq, Repr

/-- The key by which a kind of defect is known. -/
def Defect.key : Defect → String
  | .unclearSwitch => "bool_parsing"
  | .notSwitch => "bool_type"
  | .notList => "list_type"
  | .notText => "string_type"
  | .unknownName => "extra_forbidden"
  | .frozen => "frozen_instance"

/-- A kind of defect in words. -/
def Defect.message : Defect → String
  | .unclearSwitch => "Input should be a valid boolean, unable to interpret input"
  | .notSwitch => "Input should be a valid boolean"
  | .notList => "Input should be a valid list"
  | .notText => "Input should be a valid string"
  | .unknownName => "Extra inputs are not permitted"
  | .frozen => "Instance is frozen"

/-- A defect and where it is: a name, and the place in a list. -/
structure Problem where
  defect : Defect
  place : List String
  deriving DecidableEq, Repr

end ClassChain.Settings

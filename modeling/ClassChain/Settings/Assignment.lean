import ClassChain.Settings.Basic
import ClassChain.Settings.Field
import ClassChain.Settings.Value

/-!
# Assigning to settings

Settings that stand are frozen: no name can be given another value. A name that opens with an underscore is nobody's concern,
and the settings stay the same, but a few such names belong to the settings themselves. What holds all values can only be
replaced by a record, and then the record's values are seen.
-/

namespace ClassChain.Settings

/-- Why assigning breaks off. -/
inductive AssignmentFault where
  /-- What holds all values was to be something else than a record. -/
  | noRecord (kind : String)
  /-- What makes settings settings was to be a value. -/
  | noClass (kind : String)
  /-- A part of the settings that nobody can set. -/
  | unwritable
  /-- A part of the settings that is worked out from others. -/
  | workedOut (name : String)
  /-- A field whose value is gone. -/
  | gone (field : Field)
  deriving DecidableEq, Repr

/-- A fault in words. -/
def AssignmentFault.message : AssignmentFault → String
  | .noRecord kind => "__dict__ must be set to a dictionary, not a '" ++ kind ++ "'"
  | .noClass kind => "__class__ must be set to a class, not '" ++ kind ++ "' object"
  | .unwritable => "attribute '__weakref__' of 'BaseSettings' objects is not writable"
  | .workedOut name => "property '" ++ name ++ "' of 'App' object has no setter"
  | .gone field => "'App' object has no attribute '" ++ field.name ++ "'"

/-- The values of settings by the names of their fields. -/
def toRecord (s : Settings) : List (String × Value) :=
  let texts (items : List String) : Value := .list (items.map .text)
  [(Field.quiet.name, .switch s.quiet), (Field.detailed.name, .switch s.detailed),
    (Field.fileExtensions.name, texts s.fileExtensions), (Field.scriptExtensions.name, texts s.scriptExtensions),
    (Field.excludedDirs.name, texts s.excludedDirs)]

/-- Gives a name another value: the values that stand afterwards, and the problem if the attempt is refused. -/
def assign (held : List (String × Value)) (name : String) (value : Value) :
    Except AssignmentFault (List (String × Value) × Option Problem) :=
  if !name.startsWith "_" then .ok (held, some ⟨.frozen, [name]⟩)
  else
    match name, value with
    | "__dict__", .record members => .ok (members, none)
    | "__dict__", _ => .error (.noRecord value.kind)
    | "__class__", _ => .error (.noClass value.kind)
    | "__weakref__", _ => .error .unwritable
    | "__fields_set__", _ => .error (.workedOut name)
    | _, _ => .ok (held, none)

/-- The value that each field has among those that stand. -/
def seen (held : List (String × Value)) : Except AssignmentFault (List (String × Value)) :=
  Field.all.mapM fun field =>
    match held.lookup field.name with
    | some value => .ok (field.name, value)
    | none => .error (.gone field)

/-- Gives names other values one after another: the values that stand afterwards, and what became of each attempt. -/
def assignAll (held : List (String × Value)) :
    List (String × Value) → Except AssignmentFault (List (String × Value) × List (Option Problem))
  | [] => .ok (held, [])
  | (name, value) :: rest => do
    let (held, problem?) ← assign held name value
    let (held, problems) ← assignAll held rest
    return (held, problem? :: problems)

end ClassChain.Settings

/-!
# Kinds of things

Every thing is of a kind, and a kind is a thing itself. A kind belongs to a line of wider ones, up to the kind of anything.
-/

namespace ClassChain.Text

/-- What kind of thing a part is. -/
inductive Kind where
  | text
  | number
  | switch
  | nothing
  /-- Several things in a row. -/
  | row
  /-- Things by their names. -/
  | record
  /-- What a kind declares, by name. -/
  | declarations
  /-- A kind of things. -/
  | kind
  /-- A kind that is applied to something. -/
  | applied
  /-- A thing of any kind. -/
  | anything
  /-- An operation of a value. -/
  | operation
  | operator
  /-- An operation as its kind declares it. -/
  | declaredOperation
  | declaredOperator
  /-- An operation of the kind itself. -/
  | declaredForKind
  /-- An operation of nothing. -/
  | declaredAlone
  /-- Something that is known of values, as their kind declares it. -/
  | property
  | member
  deriving DecidableEq, Repr

namespace Kind

/-- The name of a kind. -/
def name : Kind → String
  | .text => "str"
  | .number => "int"
  | .switch => "bool"
  | .nothing => "NoneType"
  | .row => "tuple"
  | .record => "dict"
  | .declarations => "mappingproxy"
  | .kind => "type"
  | .applied => "GenericAlias"
  | .anything => "object"
  | .operation => "builtin_function_or_method"
  | .operator => "method-wrapper"
  | .declaredOperation => "method_descriptor"
  | .declaredOperator => "wrapper_descriptor"
  | .declaredForKind => "classmethod_descriptor"
  | .declaredAlone => "staticmethod"
  | .property => "getset_descriptor"
  | .member => "member_descriptor"

/-- Where a kind is at home. -/
def home : Kind → String
  | .applied => "types"
  | _ => "builtins"

/-- The name of a kind as messages give it: with its home, unless that is the usual one. -/
def fullName (k : Kind) : String := if k.home = "builtins" then k.name else k.home ++ "." ++ k.name

/-- A kind and the wider ones it belongs to. -/
def line : Kind → List Kind
  | .anything => [.anything]
  | .switch => [.switch, .number, .anything]
  | k => [k, .anything]

/-- A kind as it is shown. -/
def shown (k : Kind) : String := "<class '" ++ k.fullName ++ "'>"

/-- What is needed to make a thing of a kind, where that is said. -/
def signature? : Kind → Option String
  | .row => some "(iterable=(), /)"
  | .anything => some "()"
  | _ => none

/-- Kinds that can be applied to something. -/
def isApplicable (k : Kind) : Bool := [.kind, .row, .record, .declarations].contains k

/-! ## Numbers that are known of kinds -/

/-- The room that a thing of a kind takes at least. -/
def size : Kind → Nat
  | .kind => 904
  | .text => 80
  | .applied => 64
  | .operation | .declaredOperation | .declaredOperator | .declaredForKind => 56
  | .record | .property | .member => 48
  | .switch | .operator | .declaredAlone => 32
  | .number | .row | .declarations => 24
  | .nothing | .anything => 16

/-- The room that each thing in a thing of a kind takes. -/
def itemSize : Kind → Nat
  | .kind => 40
  | .row => 8
  | .number | .switch => 4
  | _ => 0

/-- The number whose binary digits say what a kind is like. -/
def flags : Kind → Nat
  | .text => 273159424
  | .number => 21501184
  | .switch => 21500160
  | .nothing => 528640
  | .row => 71849248
  | .record => 541611328
  | .declarations => 545088
  | .kind => 2148031744
  | .applied => 548096
  | .anything => 529664
  | .operation => 547200
  | .declaredOperation => 678272
  | .declaredOperator => 676224
  | .declaredAlone => 546048
  | .operator | .declaredForKind | .property | .member => 545152

/-- Where a thing of a kind keeps its own declarations. -/
def recordPlace : Kind → Nat
  | .kind => 264
  | .declaredAlone => 24
  | _ => 0

/-- Where a thing of a kind keeps what refers to it. -/
def referencePlace : Kind → Nat
  | .kind => 368
  | .operation | .applied => 40
  | _ => 0

end Kind

end ClassChain.Text

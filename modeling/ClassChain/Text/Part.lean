import ClassChain.Text.Part.Lookup
import ClassChain.Text.Quoted

/-!
# Parts of values

What a template can reach from a text step by step: characters, operations, the kinds of things, what kinds declare, and what is
known of all these.
-/

namespace ClassChain.Text

/-- What something is asked for: what stands at a number, or what has a name. -/
inductive Place where
  | number (n : Nat)
  | name (s : String)
  deriving DecidableEq, Repr

/-- A place as it is shown. -/
def Place.shown : Place → String
  | .number n => toString n
  | .name s => quoted s

/-- A part of a value. -/
inductive Part where
  | text (s : String)
  | number (n : Nat)
  | switch (b : Bool)
  | nothing
  | kind (k : Kind)
  /-- Several kinds in a row. -/
  | kinds (ks : List Kind)
  /-- A place, alone in a row. -/
  | row (place : Place)
  /-- No things by their names. -/
  | record
  /-- What a kind declares, by name. -/
  | declarations (k : Kind)
  /-- Something as a kind declares it. -/
  | declared (k : Kind) (d : Declaration)
  /-- An operation of a thing, declared by a kind. -/
  | operation (k : Kind) (d : Declaration) (owner : Part)
  /-- A kind that is applied to what would be a place of it. -/
  | applied (k : Kind) (place : Place)
  deriving DecidableEq, Repr

namespace Part

/-- The kind of a part. -/
def kindOf : Part → Kind
  | .text _ => .text
  | .number _ => .number
  | .switch _ => .switch
  | .nothing => .nothing
  | .kind _ => .kind
  | .kinds _ | .row _ => .row
  | .record => .record
  | .declarations _ => .declarations
  | .declared _ d =>
    match d.role with
    | .operator => .declaredOperator
    | .forKind => .declaredForKind
    | .alone => .declaredAlone
    | .property => .property
    | .member => .member
    | _ => .declaredOperation
  | .operation _ d _ => if d.role = .operator then .operator else .operation
  | .applied _ _ => .applied

/-- A part as messages call it. -/
def title : Part → String
  | .kind k => "type object '" ++ k.fullName ++ "'"
  | p => "'" ++ p.kindOf.fullName ++ "' object"

/-- Text that there may be. -/
def ofText? : Option String → Part
  | some s => .text s
  | none => .nothing

/-- What stands at a place if it is a thing itself. -/
def ofPlace : Place → Part
  | .number n => .number n
  | .name s => .text s

/-! ## Showing -/

/-- The beginning of a place in memory; what follows it is told of no thing. -/
def memory : String := "0x7f"

/-- An operation of a thing of a kind as it is shown. -/
def shownOperation (d : Declaration) (owner : Kind) : String :=
  (if d.role = .operator then "<method-wrapper '" ++ d.name ++ "'" else "<built-in method " ++ d.name) ++
    " of " ++ owner.fullName ++ " object at " ++ memory ++ ">"

/-- Something as it is shown where a kind declares it. -/
def shownDeclaration (k : Kind) (d : Declaration) : String :=
  let titled (role : String) : String := "<" ++ role ++ " '" ++ d.name ++ "' of '" ++ k.fullName ++ "' objects>"
  match d.role with
  | .operator => titled "slot wrapper"
  | .operation | .forKind => titled "method"
  | .property => titled "attribute"
  | .member => titled "member"
  | .alone => "<staticmethod(" ++ shownOperation d .kind ++ ")>"
  | .maker => shownOperation d .kind
  | .about => quoted (d.about?.getD "")
  | .missing => "None"

/-- Several kinds as they are shown. -/
def shownKinds : List Kind → String
  | [k] => "(" ++ k.shown ++ ",)"
  | ks => "(" ++ ", ".intercalate (ks.map Kind.shown) ++ ")"

/-- A part as it is shown. -/
def shown : Part → String
  | .text s => s
  | .number n => toString n
  | .switch b => if b then "True" else "False"
  | .nothing => "None"
  | .kind k => k.shown
  | .kinds ks => shownKinds ks
  | .row place => "(" ++ place.shown ++ ",)"
  | .record => "\x7b\x7d"
  | .declarations k =>
    "\x7b" ++ ", ".intercalate (k.declared.map fun d => Text.quoted d.name ++ ": " ++ shownDeclaration k d) ++ "\x7d"
  | .declared k d => shownDeclaration k d
  | .operation _ d owner => shownOperation d owner.kindOf
  | .applied k place => k.fullName ++ "[" ++ place.shown ++ "]"

/-- A part with a text in quotes, and with a name for what its writing does not tell. -/
def quoted : Part → String
  | .text s => Text.quoted s
  | .declarations k => Kind.declarations.name ++ "(" ++ (declarations k).shown ++ ")"
  | p => p.shown

/-! ## What is known of things -/

/-- What is said of kinds in general. -/
def aboutKinds : String := "type(object) -> the object's type\ntype(name, bases, dict, **kwds) -> a new type"

/-- What is said of a kind. -/
def about (k : Kind) : Part :=
  if k = .kind then .text aboutKinds
  else
    match k.own? "__doc__" with
    | some d => if d.role = .property then .declared k d else ofText? d.about?
    | none => .nothing

/-- What is known of a kind, by name. -/
def knownOfKind? (k : Kind) (name : String) : Option Part :=
  match name with
  | "__name__" | "__qualname__" => some (.text k.name)
  | "__module__" => some (.text k.home)
  | "__base__" => some (((k.line.drop 1).head?.map Part.kind).getD .nothing)
  | "__bases__" => some (.kinds ((k.line.drop 1).take 1))
  | "__mro__" => some (.kinds k.line)
  | "__dict__" => some (.declarations k)
  | "__doc__" => some (about k)
  | "__text_signature__" => some (ofText? k.signature?)
  | "__basicsize__" => some (.number k.size)
  | "__itemsize__" => some (.number k.itemSize)
  | "__flags__" => some (.number k.flags)
  | "__dictoffset__" => some (.number k.recordPlace)
  | "__weakrefoffset__" => some (.number k.referencePlace)
  | _ => none

/-- What is known of a number, by name. -/
def knownOfNumber? (n : Nat) (name : String) : Option Part :=
  match name with
  | "real" | "numerator" => some (.number n)
  | "imag" => some (.number 0)
  | "denominator" => some (.number 1)
  | _ => none

/-- What is known of anything that a kind declares, by name. -/
def knownOfDeclaration? (k : Kind) (d : Declaration) (name : String) : Option Part :=
  match name with
  | "__name__" => some (.text d.name)
  | "__qualname__" => some (.text (k.name ++ "." ++ d.name))
  | "__objclass__" => some (.kind k)
  | "__doc__" => some (ofText? d.about?)
  | "__text_signature__" => some (ofText? d.signature?)
  | _ => none

/-- What is known of an operation of a thing, by name. -/
def knownOfOperation? (k : Kind) (d : Declaration) (owner : Part) (name : String) : Option Part :=
  match name with
  | "__self__" => some (if d.role = .alone then .nothing else owner)
  | "__module__" => some .nothing
  | "__qualname__" =>
    let home := if d.role = .operator then k else match owner with
      | .kind k => k
      | p => p.kindOf
    some (.text (home.name ++ "." ++ d.name))
  | _ => knownOfDeclaration? k d name

/-- What is known of a part as a thing of its kind, by the name of a property or a member. -/
def knownOfThing? (p : Part) (name : String) : Option Part :=
  match p with
  | .number n => knownOfNumber? n name
  | .switch b => knownOfNumber? b.toNat name
  | .kind k => knownOfKind? k name
  | .operation k d owner => knownOfOperation? k d owner name
  | .declared k d =>
    match d.role, name with
    | .alone, "__func__" | .alone, "__wrapped__" => some (.operation k d (.kind k))
    | .alone, "__isabstractmethod__" => some (.switch false)
    | .alone, "__dict__" => some .record
    | _, _ => knownOfDeclaration? k d name
  | .applied k place =>
    match name with
    | "__origin__" => some (.kind k)
    | "__args__" => some (.row place)
    | "__unpacked__" => some (.switch false)
    | "__parameters__" => some (.kinds [])
    | "__typing_unpacked_tuple_args__" => some .nothing
    | _ => none
  | _ => none

/-- What is known of a part, by the name of a property or a member. -/
def known? (p : Part) (name : String) : Option Part :=
  if name = "__class__" then some (.kind p.kindOf) else p.knownOfThing? name

/-! ## Asking by name -/

/-- What a declaration is if its kind is asked for it as it stands. -/
def asDeclared (k : Kind) (d : Declaration) : Part :=
  match d.role with
  | .maker => .operation k d (.kind k)
  | .about | .missing => ofText? d.about?
  | _ => .declared k d

/-- What the declaration of a kind is for a kind that is asked for it. -/
def ofKind (asked k : Kind) (d : Declaration) : Part :=
  match d.role with
  | .forKind => .operation k d (.kind asked)
  | .alone => .operation k d (.kind k)
  | _ => asDeclared k d

/-- What the declaration of a kind is for a thing that is asked for it. -/
def ofThing (p : Part) (k : Kind) (d : Declaration) : Part :=
  match d.role with
  | .operation | .operator => .operation k d p
  | _ => ofKind p.kindOf k d

/-- Why a part is not known by a name. -/
inductive NameFault where
  | unknown (p : Part) (name : String)
  /-- What only kinds that leave something open have. -/
  | closed
  deriving DecidableEq, Repr

/-- A fault of a name in words. -/
def NameFault.message : NameFault → String
  | .unknown p name => p.title ++ " has no attribute '" ++ name ++ "'"
  | .closed => "__abstractmethods__"

/-- What is known of a part. -/
def knownOrFault (p : Part) (name : String) : Except NameFault Part :=
  match p.known? name with
  | some q => .ok q
  | none => .error (if name = "__abstractmethods__" then .closed else .unknown p name)

/-- A declaration that says that something is known of things. -/
def isFact (d : Declaration) : Bool := d.role == .property || d.role == .member

/-- What a part has by a name as a thing of its kind. -/
def attributeOfThing (p : Part) (name : String) : Except NameFault Part :=
  match p.kindOf.find? name with
  | some (k, d) => if isFact d then knownOrFault p name else .ok (ofThing p k d)
  | none => .error (.unknown p name)

/-- What a kind has by a name: what is known of it, what it declares, what it has as a thing. -/
def attributeOfKind (k : Kind) (name : String) : Except NameFault Part :=
  if ((Kind.kind.find? name).map fun found => isFact found.2) = some true then knownOrFault (.kind k) name
  else
    match k.find? name with
    | some (declarer, d) => .ok (ofKind k declarer d)
    | none => attributeOfThing (.kind k) name

/-- The names that are asked of an applied kind itself and not of what is applied. -/
def ownOfApplied : List String :=
  ["__class__", "__copy__", "__deepcopy__", "__origin__", "__args__", "__unpacked__", "__parameters__",
    "__typing_unpacked_tuple_args__", "__mro_entries__", "__reduce_ex__", "__reduce__"]

/-- What a part has by a name. -/
def ask (p : Part) (name : String) : Except NameFault Part :=
  match p with
  | .kind k => attributeOfKind k name
  | .applied k _ => if ownOfApplied.contains name then attributeOfThing p name else attributeOfKind k name
  | _ => attributeOfThing p name

/-! ## Asking by place -/

/-- Why a part has nothing at a place. -/
inductive PlaceFault where
  /-- Only numbers are places. -/
  | notNumbered (k : Kind)
  /-- The place is behind the end. -/
  | outside (k : Kind)
  /-- There is nothing by this name or number. -/
  | missing (place : Place)
  /-- There are no places. -/
  | noPlaces (p : Part)
  /-- A kind is applied already. -/
  | appliedAlready (p : Part)
  deriving DecidableEq, Repr

/-- A fault of a place in words. -/
def PlaceFault.message : PlaceFault → String
  | .notNumbered .text => "string indices must be integers, not 'str'"
  | .notNumbered k => k.name ++ " indices must be integers or slices, not str"
  | .outside .text => "string index out of range"
  | .outside k => k.name ++ " index out of range"
  | .missing place => place.shown
  | .noPlaces (.kind k) => "type '" ++ k.fullName ++ "' is not subscriptable"
  | .noPlaces p => p.title ++ " is not subscriptable"
  | .appliedAlready p => p.shown ++ " is not a generic class"

/-- One of several parts. -/
def among (k : Kind) (parts : List Part) : Place → Except PlaceFault Part
  | .name _ => .error (.notNumbered k)
  | .number n =>
    match parts[n]? with
    | some p => .ok p
    | none => .error (.outside k)

/-- What a part has at a place. -/
def at? (p : Part) (place : Place) : Except PlaceFault Part :=
  match p with
  | .text s => among .text (s.toList.map fun c => .text c.toString) place
  | .kinds ks => among .row (ks.map .kind) place
  | .row only => among .row [ofPlace only] place
  | .record => .error (.missing place)
  | .declarations k =>
    match place with
    | .name s => ((k.own? s).map fun d => Except.ok (asDeclared k d)).getD (.error (.missing place))
    | .number _ => .error (.missing place)
  | .kind k => if k.isApplicable then .ok (.applied k place) else .error (.noPlaces p)
  | .applied _ _ => .error (.appliedAlready p)
  | p => .error (.noPlaces p)

end Part

end ClassChain.Text

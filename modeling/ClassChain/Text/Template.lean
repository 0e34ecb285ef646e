import ClassChain.Text.Figure
import ClassChain.Text.Part

/-!
# Templates

A message with fields in braces, filled from values that are numbered or named. An empty field takes the next value, a number or a
name the value of that number or name; a doubled brace is a brace. A field may ask for a part of its value, after an exclamation
mark it says how the value is converted, and after a colon how it is laid out; the layout may have fields itself, but not theirs.
-/

namespace ClassChain.Text.Template

/-- Why a template cannot be filled. -/
inductive Fault where
  /-- A closing brace without an opening one. -/
  | loneClose
  /-- An opening brace at the very end. -/
  | loneOpen
  /-- A field that nothing closes. -/
  | unclosed
  /-- An opening brace in the name of a field. -/
  | braceInName
  /-- A conversion is announced at the very end. -/
  | noConversion
  /-- Something other than a layout follows a conversion. -/
  | afterConversion
  /-- A layout that nothing closes. -/
  | unclosedLayout
  /-- Fields in the layout of a field in a layout. -/
  | tooDeep
  /-- A conversion that there is not. -/
  | unknownConversion (c : Char)
  /-- A name that a part of a value does not know. -/
  | noPart (fault : Part.NameFault)
  /-- A place that a part of a value does not have. -/
  | noPlace (fault : Part.PlaceFault)
  /-- A place in a value that no bracket closes. -/
  | unclosedPlace
  /-- Something other than a part of a value follows a place in it. -/
  | afterPlace
  /-- A part of a value that nothing names. -/
  | emptyPart
  /-- A number that no value has. -/
  | noValue (index : Nat)
  /-- A name that no value has. -/
  | noName (name : String)
  /-- An empty field after a numbered one. -/
  | countAfterNumber
  /-- A numbered field after an empty one. -/
  | numberAfterCount
  /-- A value cannot be laid out so. -/
  | layout (fault : Layout.Fault)
  /-- Only texts and numbers can be laid out. -/
  | noLayout (k : Kind)
  deriving DecidableEq, Repr

/-- A fault in words. -/
def Fault.message : Fault → String
  | .loneClose => "Single '\x7d' encountered in format string"
  | .loneOpen => "Single '\x7b' encountered in format string"
  | .unclosed => "expected '\x7d' before end of string"
  | .braceInName => "unexpected '\x7b' in field name"
  | .noConversion => "end of string while looking for conversion specifier"
  | .afterConversion => "expected ':' after conversion specifier"
  | .unclosedLayout => "unmatched '\x7b' in format spec"
  | .tooDeep => "Max string recursion exceeded"
  | .unknownConversion c => "Unknown conversion specifier " ++ Layout.shownCode 127 c
  | .noPart fault => fault.message
  | .noPlace fault => fault.message
  | .unclosedPlace => "Missing ']' in format string"
  | .afterPlace => "Only '.' or '[' may follow ']' in format field specifier"
  | .emptyPart => "Empty attribute in format string"
  | .noValue index => "Replacement index " ++ toString index ++ " out of range for positional args tuple"
  | .noName name => quoted name
  | .countAfterNumber => "cannot switch from manual field specification to automatic field numbering"
  | .numberAfterCount => "cannot switch from automatic field numbering to manual field specification"
  | .layout fault => fault.message
  | .noLayout k => "unsupported format string passed to " ++ k.fullName ++ ".__format__"

/-- Takes over what was read or laid out. -/
def ofLayout {α : Type} (x : Except Layout.Fault α) : Except Fault α := x.mapError .layout

/-! ## Finding values -/

/-- How fields without a name find their values. -/
inductive Numbering where
  /-- No field has asked for a value yet. -/
  | open
  /-- Empty fields take the values in order; the next is given. -/
  | counted (next : Nat)
  /-- Fields give the numbers themselves. -/
  | explicit
  deriving DecidableEq, Repr

/-- What a template is filled with. -/
structure Values where
  /-- The numbered values. -/
  numbered : List String
  /-- The named values. -/
  named : List (String × String)

/-- The value with a number. -/
def Values.at (values : Values) (index : Nat) : Except Fault String :=
  match values.numbered[index]? with
  | some s => .ok s
  | none => .error (.noValue index)

/-- The number that a whole text writes, if it writes one. -/
def index? (cs : List Char) : Except Fault (Option Nat) := do
  let (n, rest) ← ofLayout (Layout.number 0 cs)
  return if cs.isEmpty || !rest.isEmpty then none else some n

/-- The value that a field with this name takes, and how the next field finds its value. -/
def Values.find (values : Values) (numbering : Numbering) (name : List Char) : Except Fault (String × Numbering) := do
  match name, ← index? name, numbering with
  | [], _, .explicit => throw .countAfterNumber
  | [], _, .open => return (← values.at 0, .counted 1)
  | [], _, .counted next => return (← values.at next, .counted (next + 1))
  | _, some _, .counted _ => throw .numberAfterCount
  | _, some index, _ => return (← values.at index, .explicit)
  | _, none, _ =>
    match values.named.lookup (String.ofList name) with
    | some s => return (s, numbering)
    | none => throw (.noName (String.ofList name))

/-- A character that goes from a value to a part of it. -/
def isPartMark (c : Char) : Bool := c == '.' || c == '['

/-- What a part of a value has at the place that stands between brackets. -/
def placed (part : Part) (place : List Char) : Except Fault Part := do
  if place.isEmpty then throw .emptyPart
  let place := match ← index? place with
    | some n => Place.number n
    | none => Place.name (String.ofList place)
  (part.at? place).mapError .noPlace

/-- What a part of a value is asked for by name. -/
def named (part : Part) (name : List Char) : Except Fault Part :=
  if name.isEmpty then .error .emptyPart else (part.ask (String.ofList name)).mapError .noPart

/-- The part of a part that the end of a field's name asks for, going on in at most so many steps. -/
def partWithin (steps : Nat) (part : Part) (path : List Char) : Except Fault Part :=
  match steps, path with
  | _, [] => .ok part
  | steps + 1, '[' :: rest =>
    match rest.dropWhile (· != ']') with
    | [] => .error .unclosedPlace
    | _ :: after => do partWithin steps (← placed part (rest.takeWhile (· != ']'))) after
  | steps + 1, '.' :: rest => do
    partWithin steps (← named part (rest.takeWhile (!isPartMark ·))) (rest.dropWhile (!isPartMark ·))
  | _, _ => .error .afterPlace

/-- The part of a value that the end of a field's name asks for. -/
def partOf (value : String) (path : List Char) : Except Fault Part := partWithin path.length (.text value) path

/-! ## Reading fields -/

/-- A field as it is written between its braces. -/
structure Field where
  name : List Char
  conversion : Option Char
  layout : List Char

/-- The layout of a field up to the brace that closes it, and what follows. -/
def layout? (depth : Nat) : List Char → Except Fault (List Char × List Char)
  | [] => .error .unclosedLayout
  | '\x7d' :: rest =>
    match depth with
    | 0 => .ok ([], rest)
    | depth + 1 => do
      let (layout, after) ← layout? depth rest
      return ('\x7d' :: layout, after)
  | c :: rest => do
    let (layout, after) ← layout? (if c = '\x7b' then depth + 1 else depth) rest
    return (c :: layout, after)

/-- What follows the name of a field: a conversion, a layout and the closing brace. -/
def fieldEnd (name : List Char) : List Char → Except Fault (Field × List Char)
  | '\x7d' :: rest => .ok (⟨name, none, []⟩, rest)
  | ':' :: rest => do
    let (layout, after) ← layout? 0 rest
    return (⟨name, none, layout⟩, after)
  | '!' :: c :: '\x7d' :: rest => .ok (⟨name, some c, []⟩, rest)
  | '!' :: c :: ':' :: rest => do
    let (layout, after) ← layout? 0 rest
    return (⟨name, some c, layout⟩, after)
  | '!' :: _ :: _ :: _ => .error .afterConversion
  | '!' :: [_] => .error .unclosedLayout
  | '!' :: [] => .error .noConversion
  | '\x7b' :: _ => .error .braceInName
  | _ => .error .unclosed

/-- A character that ends the name of a field, unless it stands between brackets. -/
def endsName (c : Char) : Bool := c == '\x7b' || c == '\x7d' || c == ':' || c == '!'

/-- The name of a field, and what follows from the character that ends it on. -/
def fieldName (inBrackets : Bool) : List Char → List Char × List Char
  | [] => ([], [])
  | c :: rest =>
    if !inBrackets && endsName c then ([], c :: rest)
    else
      let (name, after) := fieldName (if inBrackets then c != ']' else c == '[') rest
      (c :: name, after)

/-- The field that follows an opening brace, and what follows it. -/
def field? (cs : List Char) : Except Fault (Field × List Char) :=
  let (name, rest) := fieldName false cs
  fieldEnd name rest

/-! ## Filling -/

/-- A part of a value as a conversion shows it. -/
def convert (part : Part) : Option Char → Except Fault Part
  | none => .ok part
  | some 's' => .ok (.text part.shown)
  | some 'r' => .ok (.text part.quoted)
  | some 'a' => .ok (.text (ascii part.quoted))
  | some c => .error (.unknownConversion c)

/-- A part of a value laid out. -/
def laidOutPart (layout : List Char) (part : Part) : Except Fault (List Char) :=
  if layout.isEmpty then .ok part.shown.toList
  else
    match part with
    | .text s => ofLayout (laidOut layout s.toList)
    | .number n => ofLayout (laidOutNumber part.kindOf.name layout n)
    | .switch b => ofLayout (laidOutNumber part.kindOf.name layout b.toNat)
    | part => .error (.noLayout part.kindOf)

/-- What a filling leaves: the text, and how the next field finds its value. -/
abbrev Filled := Except Fault (List Char × Numbering)

/-- Text before what was filled. -/
def precede (text : List Char) (filled : Filled) : Filled := filled.map fun (rest, numbering) => (text ++ rest, numbering)

/-- Fills a field; `inner` fills its layout if that has fields. -/
def fillField (values : Values) (inner : Numbering → List Char → Filled) (numbering : Numbering) (field : Field) : Filled := do
  let (value, numbering) ← values.find numbering (field.name.takeWhile (!isPartMark ·))
  let shown ← convert (← partOf value (field.name.dropWhile (!isPartMark ·))) field.conversion
  let (layout, numbering) ← if field.layout.contains '\x7b' then inner numbering field.layout else pure (field.layout, numbering)
  return (← laidOutPart layout shown, numbering)

/-- Fills a template piece by piece, at most so many of them; each piece takes at least one character. -/
def fillPieces (values : Values) (inner : Numbering → List Char → Filled) : Nat → Numbering → List Char → Filled
  | pieces + 1, numbering, '\x7b' :: rest =>
    match rest with
    | [] => .error .loneOpen
    | '\x7b' :: rest => precede ['\x7b'] (fillPieces values inner pieces numbering rest)
    | _ => do
      let (field, rest) ← field? rest
      let (shown, numbering) ← fillField values inner numbering field
      precede shown (fillPieces values inner pieces numbering rest)
  | pieces + 1, numbering, '\x7d' :: rest =>
    match rest with
    | '\x7d' :: rest => precede ['\x7d'] (fillPieces values inner pieces numbering rest)
    | _ => .error .loneClose
  | pieces + 1, numbering, c :: rest => precede [c] (fillPieces values inner pieces numbering rest)
  | _, numbering, _ => .ok ([], numbering)

/-- Fills a template whose fields are nested at most so deep. -/
def fillWithin (values : Values) : Nat → Numbering → List Char → Filled
  | 0, _, _ => .error .tooDeep
  | depth + 1, numbering, cs => fillPieces values (fillWithin values depth) cs.length numbering cs

/-- A template filled with values. -/
def fill (values : Values) (template : String) : Except Fault String :=
  (fillWithin values 2 .open template.toList).map fun filled => String.ofList filled.1

end ClassChain.Text.Template

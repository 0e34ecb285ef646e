import ClassChain.Text.Digit
import ClassChain.Text.Quoted

/-!
# Layouts

How a text is laid out in a field: `*^10.3` asks for the first three characters in the middle of ten, with stars around. A layout
is written in a notation that numbers share, so it can ask for signs, zeros and groups of digits, which a text has not.
-/

namespace ClassChain.Text

/-- Where a text stands in its width. -/
inductive Alignment where
  | left
  | right
  | centre
  /-- Between sign and digits, which only numbers have. -/
  | inside
  deriving DecidableEq, Repr

/-- The alignment that a character stands for. -/
def Alignment.ofChar? : Char → Option Alignment
  | '<' => some .left
  | '>' => some .right
  | '^' => some .centre
  | '=' => some .inside
  | _ => none

/-- A layout as it is written. -/
structure Layout where
  fill : Char := ' '
  alignment : Alignment := .left
  /-- How the sign of a number is shown. -/
  sign? : Option Char := none
  /-- A zero below nothing loses its sign. -/
  dropsZeroSign : Bool := false
  /-- The base of a number is shown. -/
  showsBase : Bool := false
  /-- The least number of characters. -/
  width? : Option Nat := none
  /-- What stands between groups of digits. -/
  separator? : Option Char := none
  /-- The greatest number of characters taken over. -/
  limit? : Option Nat := none
  /-- What is laid out; `s` is a text. -/
  kind : Char := 's'
  deriving DecidableEq, Repr

namespace Layout

/-- Why something cannot be laid out. -/
inductive Fault where
  | tooManyDigits
  | bothSeparators
  | noLimit
  /-- Something is left over in the notation for things of a kind. -/
  | invalid (written : List Char) (subject : String)
  /-- A kind whose digits are not grouped this way. -/
  | notGrouped (separator kind : Char)
  | unknownKind (kind : Char) (subject : String)
  | spaceForSign
  | showsSign
  | dropsZeroSign
  | showsBase
  | inside
  /-- A limit for a whole number. -/
  | limitsNumber
  | dropsZeroSignOfNumber
  /-- A sign for a character that is given by its number. -/
  | showsSignOfCharacter
  | showsBaseOfCharacter
  /-- A number that no character has. -/
  | noCharacter
  /-- More digits than can be asked for. -/
  | limitTooGreat
  /-- The text would be longer than there is room for. -/
  | noRoom
  deriving DecidableEq, Repr

/-- A character in a message, by its number unless it can be seen. -/
def shownCode (visible : Nat) (c : Char) : String :=
  if 32 < c.toNat ∧ c.toNat < visible then c.toString else "\\x" ++ String.ofList (hex 0 c.toNat)

/-- A fault in words. -/
def Fault.message : Fault → String
  | .tooManyDigits => "Too many decimal digits in format string"
  | .bothSeparators => "Cannot specify both ',' and '_'."
  | .noLimit => "Format specifier missing precision"
  | .invalid written subject =>
    "Invalid format specifier '" ++ String.ofList written ++ "' for object of type '" ++ subject ++ "'"
  | .notGrouped separator kind => "Cannot specify '" ++ separator.toString ++ "' with '" ++ shownCode 128 kind ++ "'."
  | .unknownKind kind subject => "Unknown format code '" ++ shownCode 128 kind ++ "' for object of type '" ++ subject ++ "'"
  | .spaceForSign => "Space not allowed in string format specifier"
  | .showsSign => "Sign not allowed in string format specifier"
  | .dropsZeroSign => "Negative zero coercion (z) not allowed in string format specifier"
  | .showsBase => "Alternate form (#) not allowed in string format specifier"
  | .inside => "'=' alignment not allowed in string format specifier"
  | .limitsNumber => "Precision not allowed in integer format specifier"
  | .dropsZeroSignOfNumber => "Negative zero coercion (z) not allowed in integer format specifier"
  | .showsSignOfCharacter => "Sign not allowed with integer format specifier 'c'"
  | .showsBaseOfCharacter => "Alternate form (#) not allowed with integer format specifier 'c'"
  | .noCharacter => "%c arg not in range(0x110000)"
  | .limitTooGreat => "precision too big"
  | .noRoom => ""

/-! ## Reading -/

/-- The greatest number that can be written. -/
def numberLimit : Nat := 0x7FFFFFFFFFFFFFFF

/-- The number that digits continue from a number begun, and what follows them. -/
def number (begun : Nat) : List Char → Except Fault (Nat × List Char)
  | [] => .ok (begun, [])
  | c :: cs =>
    match Digit.value? c with
    | some digit =>
      let n := 10 * begun + digit
      if numberLimit < n then .error .tooManyDigits else number n cs
    | none => .ok (begun, c :: cs)

/-- The number that text opens with, if it opens with one, and what follows. -/
def number? (cs : List Char) : Except Fault (Option Nat × List Char) := do
  let (n, rest) ← number 0 cs
  return (if rest.length = cs.length then none else some n, rest)

/-- Passes over a character, if text opens with it; says whether it did. -/
def passes (mark : Char) (cs : List Char) : Bool × List Char :=
  match cs with
  | c :: rest => if c = mark then (true, rest) else (false, cs)
  | [] => (false, [])

/-- The filling, if one is given, and the alignment that text opens with, and what follows. -/
def aligned (cs : List Char) : Option Char × Option Alignment × List Char :=
  match cs with
  | fill :: mark :: rest =>
    match Alignment.ofChar? mark, Alignment.ofChar? fill with
    | some alignment, _ => (some fill, some alignment, rest)
    | none, some alignment => (none, some alignment, mark :: rest)
    | none, none => (none, none, cs)
  | [mark] =>
    match Alignment.ofChar? mark with
    | some alignment => (none, some alignment, [])
    | none => (none, none, cs)
  | [] => (none, none, [])

/-- The way of showing signs that text opens with, and what follows. -/
def sign (cs : List Char) : Option Char × List Char :=
  match cs with
  | c :: rest => if c = ' ' ∨ c = '+' ∨ c = '-' then (some c, rest) else (none, cs)
  | [] => (none, [])

/-- The separator that text opens with, and what follows; both at once are refused. -/
def separator (cs : List Char) : Except Fault (Option Char × List Char) :=
  match cs with
  | ',' :: '_' :: _ => .error .bothSeparators
  | '_' :: ',' :: _ => .error .bothSeparators
  | ',' :: rest => .ok (some ',', rest)
  | '_' :: rest => .ok (some '_', rest)
  | _ => .ok (none, cs)

/-- The limit that text opens with, after a point, and what follows. -/
def limit (cs : List Char) : Except Fault (Option Nat × List Char) :=
  match cs with
  | '.' :: rest => do
    match ← number? rest with
    | (none, _) => throw .noLimit
    | (some n, rest) => return (some n, rest)
  | _ => .ok (none, cs)

/-- What things of a kind are laid out like unless the notation says otherwise. -/
structure Custom where
  /-- What the kind is called. -/
  subject : String
  kind : Char
  alignment : Alignment
  /-- Where things that are filled with zeros stand. -/
  zeroAlignment : Alignment

/-- Texts stand on the left, among zeros too. -/
def ofTexts : Custom := ⟨"str", 's', .left, .left⟩

/-- Numbers stand on the right, and zeros follow their signs. -/
def ofNumbers (subject : String) : Custom := ⟨subject, 'd', .right, .inside⟩

/-- The kinds of numbers whose digits are grouped with a separator. -/
def isGrouped (separator kind : Char) : Bool :=
  ['d', 'e', 'f', 'g', 'E', 'G', '%', 'F', '\x00'].contains kind || (separator == '_' && ['b', 'o', 'x', 'X'].contains kind)

/-- Reads a layout of things with a custom. -/
def read (custom : Custom) (cs : List Char) : Except Fault Layout := do
  let (fill?, alignment?, rest) := aligned cs
  let (sign?, rest) := sign rest
  let (dropsZeroSign, rest) := passes 'z' rest
  let (showsBase, rest) := passes '#' rest
  let (zeros, rest) := if fill?.isNone then passes '0' rest else (false, rest)
  let (width?, rest) ← number? rest
  let (separator?, rest) ← separator rest
  let (limit?, rest) ← limit rest
  let kind ← match rest with
    | [] => pure custom.kind
    | [kind] => pure kind
    | _ => throw (.invalid cs custom.subject)
  if let some separator := separator? then
    if !isGrouped separator kind then throw (.notGrouped separator kind)
  return {
    fill := fill?.getD (if zeros then '0' else ' ')
    alignment := alignment?.getD (if zeros then custom.zeroAlignment else custom.alignment)
    sign?, dropsZeroSign, showsBase, width?, separator?, limit?, kind }

/-! ## Laying out -/

/-- The greatest width that there is room for. -/
def widthLimit : Nat := 0x1000000

/-- What a layout asks for that no text has, or that there is no room for. -/
def fault? (l : Layout) : Option Fault :=
  if l.kind ≠ 's' then some (.unknownKind l.kind ofTexts.subject)
  else if l.sign? = some ' ' then some .spaceForSign
  else if l.sign?.isSome then some .showsSign
  else if l.dropsZeroSign then some .dropsZeroSign
  else if l.showsBase then some .showsBase
  else if l.alignment = .inside then some .inside
  else if widthLimit < l.width?.getD 0 then some .noRoom
  else none

/-- The part of a text that is taken over. -/
def cut (l : Layout) (text : List Char) : List Char :=
  match l.limit? with
  | some limit => text.take limit
  | none => text

/-- A text in its width. -/
def lay (l : Layout) (text : List Char) : List Char :=
  let shown := l.cut text
  let missing := l.width?.getD 0 - shown.length
  let before := match l.alignment with
    | .left | .inside => 0
    | .right => missing
    | .centre => missing / 2
  List.replicate before l.fill ++ shown ++ List.replicate (missing - before) l.fill

end Layout

/-- A text laid out as a notation says; without one it stays as it is. -/
def laidOut (written text : List Char) : Except Layout.Fault (List Char) := do
  if written.isEmpty then return text
  let l ← Layout.read Layout.ofTexts written
  match l.fault? with
  | some fault => throw fault
  | none => return l.lay text

end ClassChain.Text

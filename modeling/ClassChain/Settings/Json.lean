import ClassChain.Settings.Value

/-!
# JSON

The notation in which lists are written in the environment.

Text is JSON when one value stands in it with nothing around it but spaces, tabs and line ends. Numbers may also be written
`NaN`, `Infinity` and `-Infinity`, and a whole number has at most 4300 digits. A string may be spelled with half of a surrogate
pair alone, for which the replacement character stands. Text is read from left to right, and reading ends where brackets are
nested too deep, whatever follows.
-/

namespace ClassChain.Settings.Json

/-- What a bracket opens. -/
inductive Container where
  | list
  | record
  deriving DecidableEq, Repr

/-- Why a text cannot be read. -/
inductive Fault where
  /-- The text is not JSON. -/
  | malformed
  /-- A bracket is one too many inside others. -/
  | tooDeep (inner : Container)
  deriving DecidableEq, Repr

/-- How many brackets may be open at once. -/
def depthLimit : Nat := 975

/-- What may stand between the parts of a JSON text. -/
def isSpace (c : Char) : Bool := c == ' ' || c == '\t' || c == '\n' || c == '\r'

/-- Passes over spaces. -/
def skip (cs : List Char) : List Char := cs.dropWhile isSpace

/-- The worth of a hexadecimal digit. -/
def hexDigit? (c : Char) : Option Nat :=
  if c.isDigit then some (c.toNat - '0'.toNat)
  else if 'a' ≤ c ∧ c ≤ 'f' then some (c.toNat - 'a'.toNat + 10)
  else if 'A' ≤ c ∧ c ≤ 'F' then some (c.toNat - 'A'.toNat + 10)
  else none

/-- The number that four hexadecimal digits write. -/
def hexUnit? (a b c d : Char) : Option Nat := do
  return 0x1000 * (← hexDigit? a) + 0x100 * (← hexDigit? b) + 0x10 * (← hexDigit? c) + (← hexDigit? d)

/-- The character that a letter after a backslash stands for. -/
def escaped? (c : Char) : Option Char :=
  match c with
  | '"' => some '"'
  | '\\' => some '\\'
  | '/' => some '/'
  | 'b' => some '\x08'
  | 'f' => some '\x0c'
  | 'n' => some '\n'
  | 'r' => some '\r'
  | 't' => some '\t'
  | _ => none

/-- The code units of a string up to its closing quote, and what follows. -/
def stringUnits? : List Char → Option (List Nat × List Char)
  | [] => none
  | '"' :: rest => some ([], rest)
  | '\\' :: 'u' :: a :: b :: c :: d :: rest => do
    let unit ← hexUnit? a b c d
    let (units, after) ← stringUnits? rest
    return (unit :: units, after)
  | '\\' :: c :: rest => do
    let char ← escaped? c
    let (units, after) ← stringUnits? rest
    return (char.toNat :: units, after)
  | c :: rest =>
    if c.toNat < 0x20 ∨ c = '\\' then none
    else do
      let (units, after) ← stringUnits? rest
      return (c.toNat :: units, after)

/-- The character of a code unit; of half a pair, the replacement character. -/
def ofUnit (unit : Nat) : Char := if 0xD800 ≤ unit ∧ unit < 0xE000 then '\ufffd' else Char.ofNat unit

/-- The text that code units spell, joining the halves of a pair. -/
def ofUnits : List Nat → List Char
  | [] => []
  | high :: low :: rest =>
    if 0xD800 ≤ high ∧ high < 0xDC00 ∧ 0xDC00 ≤ low ∧ low < 0xE000 then
      Char.ofNat (0x10000 + (high - 0xD800) * 0x400 + (low - 0xDC00)) :: ofUnits rest
    else ofUnit high :: ofUnits (low :: rest)
  | [unit] => [ofUnit unit]

/-- The whole number that digits write. -/
def ofDigits (ds : List Char) : Nat := ds.foldl (fun n d => 10 * n + (d.toNat - '0'.toNat)) 0

/-- The whole part of a number without its sign: a zero alone, or digits that do not open with one. -/
def wholePart? (cs : List Char) : Option (List Char × List Char) :=
  match cs with
  | '0' :: rest => some (['0'], rest)
  | _ => if (cs.takeWhile Char.isDigit).isEmpty then none else some (cs.span Char.isDigit)

/-- The digits after a point, if there are some, and what follows. -/
def fraction (cs : List Char) : List Char × List Char :=
  match cs with
  | '.' :: rest => if (rest.takeWhile Char.isDigit).isEmpty then ([], cs) else rest.span Char.isDigit
  | _ => ([], cs)

/-- The exponent, if there is one, and what follows. -/
def exponent (cs : List Char) : Option Int × List Char :=
  match cs with
  | e :: rest =>
    if e = 'e' ∨ e = 'E' then
      let (negative, digits) := match rest with
        | '-' :: more => (true, more)
        | '+' :: more => (false, more)
        | _ => (false, rest)
      if (digits.takeWhile Char.isDigit).isEmpty then (none, cs)
      else
        let amount : Int := ofDigits (digits.takeWhile Char.isDigit)
        (some (if negative then -amount else amount), digits.dropWhile Char.isDigit)
    else (none, cs)
  | [] => (none, cs)

/-- The greatest number of digits that a whole number has. -/
def digitLimit : Nat := 4300

/-- The number that text opens with, and what follows. -/
def number? (cs : List Char) : Option (Value × List Char) := do
  let (negative, unsigned) := match cs with
    | '-' :: rest => (true, rest)
    | _ => (false, cs)
  let (digits, rest) ← wholePart? unsigned
  let (decimals, rest) := fraction rest
  let (exponent?, rest) := exponent rest
  let signed (n : Nat) : Int := if negative then -(n : Int) else n
  if decimals.isEmpty && exponent?.isNone then
    if digitLimit < digits.length then none else return (.integer (signed (ofDigits digits)), rest)
  else return (.ofDecimal (signed (ofDigits (digits ++ decimals))) (decimals.length - exponent?.getD 0), rest)

/-- The words that are values, and their values. -/
def words : List (String × Value) :=
  [("null", .null), ("true", .switch true), ("false", .switch false), ("NaN", .fraction none), ("Infinity", .fraction none),
    ("-Infinity", .fraction none)]

/-- The word that text opens with, and what follows. -/
def word? (cs : List Char) : Option (Value × List Char) :=
  (words.find? fun w => w.1.toList.isPrefixOf cs).map fun w => (w.2, cs.drop w.1.length)

/-- A fault where there is no value. -/
def orFault {α : Type} : Option α → Except Fault α
  | some a => .ok a
  | none => .error .malformed

mutual

/-- The value that text opens with, and what follows. Brackets may be nested `room` deep; the fuel bounds the steps. -/
def valueWithin (fuel room : Nat) (cs : List Char) : Except Fault (Value × List Char) :=
  match fuel, cs with
  | 0, _ => .error .malformed
  | _, '"' :: rest => do
    let (units, after) ← orFault (stringUnits? rest)
    return (.text (String.ofList (ofUnits units)), after)
  | fuel + 1, '[' :: rest =>
    match room, skip rest with
    | 0, _ => .error (.tooDeep .list)
    | _, ']' :: after => .ok (.list [], after)
    | room + 1, inner => do
      let (items, after) ← itemsWithin fuel room inner
      return (.list items, after)
  | fuel + 1, '\x7b' :: rest =>
    match room, skip rest with
    | 0, _ => .error (.tooDeep .record)
    | _, '\x7d' :: after => .ok (.record [], after)
    | room + 1, inner => do
      let (members, after) ← membersWithin fuel room inner
      return (.record members, after)
  | _, cs => orFault (word? cs <|> number? cs)

/-- The items of a list up to its closing bracket. -/
def itemsWithin (fuel room : Nat) (cs : List Char) : Except Fault (List Value × List Char) :=
  match fuel with
  | 0 => .error .malformed
  | fuel + 1 => do
    let (item, rest) ← valueWithin fuel room cs
    match skip rest with
    | ']' :: after => return ([item], after)
    | ',' :: more =>
      let (items, after) ← itemsWithin fuel room (skip more)
      return (item :: items, after)
    | _ => .error .malformed

/-- The members of an object up to its closing brace. -/
def membersWithin (fuel room : Nat) (cs : List Char) : Except Fault (List (String × Value) × List Char) :=
  match fuel, cs with
  | fuel + 1, '"' :: rest => do
    let (units, rest) ← orFault (stringUnits? rest)
    match skip rest with
    | ':' :: rest =>
      let (value, rest) ← valueWithin fuel room (skip rest)
      let member := (String.ofList (ofUnits units), value)
      match skip rest with
      | '\x7d' :: after => return ([member], after)
      | ',' :: more =>
        let (members, after) ← membersWithin fuel room (skip more)
        return (member :: members, after)
      | _ => .error .malformed
    | _ => .error .malformed
  | _, _ => .error .malformed

end

/-- The value that a JSON text writes. -/
def read (text : String) : Except Fault Value := do
  let cs := skip text.toList
  let (value, rest) ← valueWithin (cs.length + 1) depthLimit cs
  if (skip rest).isEmpty then return value else .error .malformed

end ClassChain.Settings.Json

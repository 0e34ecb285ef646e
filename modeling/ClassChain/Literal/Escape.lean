import ClassChain.Literal.Number
import ClassChain.Literal.Quotation
import ClassChain.Text.CharacterName

/-!
# Escapes in quoted texts

What a backslash in a quoted text may stand before. The text is spelled in ASCII before the escapes are looked at, and the
places in messages are places of that spelling.
-/

namespace ClassChain.Literal.Quotation

/-! ## Spelling -/

/-- A character of ASCII. -/
def isPlain (c : Char) : Bool := c.toNat < 128

/-- A character as an escape of ten places. -/
def wide (c : Char) : List Char := '\\' :: 'U' :: Text.hex 8 c.toNat

/-- A backslash as an escape. -/
def backslash : List Char := '\\' :: 'u' :: Text.hex 4 '\\'.toNat

/-- The spelling of a text in ASCII: other characters are escapes, and so is a backslash that stands before one or at the end. -/
def spelled : List Char → List Char
  | [] => []
  | ['\\'] => backslash
  | '\\' :: c :: cs => if isPlain c then '\\' :: c :: spelled cs else backslash ++ (wide c ++ spelled cs)
  | c :: cs => if isPlain c then c :: spelled cs else wide c ++ spelled cs

/-! ## Escapes -/

/-- The letters before hexadecimal digits, with the number of digits and what is said when some are missing. -/
def digitEscapes : List (Char × Nat × String) :=
  [('x', 2, "truncated \\xXX escape"), ('u', 4, "truncated \\uXXXX escape"), ('U', 8, "truncated \\UXXXXXXXX escape")]

/-- The number that hexadecimal digits write. -/
def hexNumber (digits : List Char) : Nat :=
  digits.foldl (fun n d => 16 * n + (if d.isDigit then d.toNat - '0'.toNat else d.toLower.toNat - 'a'.toNat + 10)) 0

/-- What is wrong with an escape by digits at a place; `digits` stands after its letter. -/
def digitFault? (place count : Nat) (missing : String) (digits : List Char) : Option Fault :=
  let found := (digits.take count).takeWhile (isDigitOf .hexadecimal)
  if found.length < count then some (.badEscape place (place + 2 + found.length) missing)
  else if 0x10FFFF < hexNumber found then some (.badEscape place (place + 2 + count) "illegal Unicode character")
  else none

/-- What is wrong with an escape by name at a place; `cs` stands after its letter. -/
def nameFault? (place : Nat) (cs : List Char) : Option Fault :=
  let malformed (length : Nat) : Option Fault := some (.badEscape place (place + length) "malformed \\N character escape")
  match cs with
  | '\x7b' :: cs =>
    let name := cs.takeWhile (· != '\x7d')
    if cs.length ≤ name.length then malformed (3 + name.length)
    else if name.isEmpty then malformed 3
    else if Text.isCharacterName name then none
    else some (.badEscape place (place + 4 + name.length) "unknown Unicode character name")
  | _ => malformed 2

/-- What is wrong with the escapes of spelled text from a place on. -/
def escapeFault? (place : Nat) : List Char → Option Fault
  | [] => none
  | '\\' :: c :: cs =>
    let fault? := match digitEscapes.lookup c with
      | some (count, missing) => digitFault? place count missing cs
      | none => if c = 'N' then nameFault? place cs else none
    fault?.orElse fun _ => escapeFault? (place + 2) cs
  | _ :: cs => escapeFault? (place + 1) cs

/-- What is wrong with the escapes of a text. -/
def textFault? (cs : List Char) : Option Fault := escapeFault? 0 (spelled cs)

/-- What is wrong with the escapes of bytes from a place on. -/
def byteFault? (place : Nat) : List Char → Option Fault
  | [] => none
  | '\\' :: c :: cs =>
    if c = 'x' ∧ ((cs.take 2).takeWhile (isDigitOf .hexadecimal)).length < 2 then some (.badByte place)
    else byteFault? (place + 2) cs
  | _ :: cs => byteFault? (place + 1) cs

/-- What is wrong with a quoted text that holds no expressions. Without a backslash nothing is looked for. -/
def fault? (q : Quotation) : Option Fault :=
  if q.isBytes then
    if q.content.any (!isPlain ·) then some .wideBytes else if q.isRaw then none else byteFault? 0 q.content
  else if q.isRaw ∨ ¬ q.content.contains '\\' then none
  else textFault? q.content

end ClassChain.Literal.Quotation

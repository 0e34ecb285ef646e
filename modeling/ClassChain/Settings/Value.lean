/-!
# Values given to settings

What a setting can be given, told apart by kind. Of a number that is not written as a whole one no more is kept than the whole
number of 64 bits that it equals, since no setting takes another.
-/

namespace ClassChain.Settings

/-- A value given to a setting, by kind. -/
inductive Value where
  | null
  | switch (on : Bool)
  | integer (n : Int)
  /-- A number that is not written as a whole one, and the whole number of 64 bits that it equals, if there is one. -/
  | fraction (whole? : Option Int)
  | text (s : String)
  | list (items : List Value)
  | record (members : List (String × Value))
  deriving Repr, Inhabited

/-- A whole number that 64 bits hold. -/
def isWord (n : Int) : Bool := -0x8000000000000000 ≤ n && n < 0x8000000000000000

namespace Value

/-- The number with these digits and so many decimal places, which are negative when zeros follow the digits. -/
def ofDecimal (digits : Int) (places : Int) : Value :=
  let size : Int := (toString digits.natAbs).length
  if digits = 0 then .fraction (some 0)
  else if size ≤ places ∨ 20 < size - places then .fraction none
  else
    let unit := Int.pow 10 places.natAbs
    let whole := if places ≤ 0 then digits * unit else digits / unit
    .fraction (if (0 < places ∧ digits % unit ≠ 0) ∨ isWord whole = false then none else some whole)

/-- The name of a value's kind. -/
def kind : Value → String
  | .null => "NoneType"
  | .switch _ => "bool"
  | .integer _ => "int"
  | .fraction _ => "float"
  | .text _ => "str"
  | .list _ => "list"
  | .record _ => "dict"

/-- A value that counts as a yes: anything but nothing, zero and what is empty. -/
def isTrue : Value → Bool
  | .null => false
  | .switch on => on
  | .integer n => n != 0
  | .fraction whole? => whole? != some 0
  | .text s => s != ""
  | .list items => !items.isEmpty
  | .record members => !members.isEmpty

/-- The text that a value is. -/
def text? : Value → Option String
  | .text s => some s
  | _ => none

end Value

end ClassChain.Settings

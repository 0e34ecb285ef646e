import ClassChain.Text.Layout

/-!
# Layouts of numbers

How a number is laid out in a field: in one of several bases, as the character with that number, or as a fraction with so many
digits. Its digits can be grouped, and zeros that fill the field are grouped with them.
-/

namespace ClassChain.Text

/-- A number in writing: what stands before its digits, the digits that are grouped, and what follows them. -/
structure Figure where
  lead : List Char := []
  digits : List Char
  tail : List Char := []
  deriving DecidableEq, Repr

namespace Figure

/-! ## Groups -/

/-- Digits, the last first, in groups of a size with separators between, and with zeros up to a least length; in so many groups.
-/
def grouped (size : Nat) (separator : Char) : Nat → List Char → Int → List Char
  | 0, digits, _ => digits
  | groups + 1, digits, least =>
    let count := min size (max (max digits.length least.toNat) 1)
    let group := digits.take count ++ List.replicate (count - digits.length) '0'
    let rest := digits.drop count
    if rest.isEmpty ∧ least ≤ count then group
    else group ++ separator :: grouped size separator groups rest (least - count - 1)

/-- Digits of a number as a layout groups them, at least so long. -/
def groupedBy (l : Layout) (digits : List Char) (least : Int) : List Char :=
  match l.separator? with
  | some separator =>
    let size := if ['b', 'o', 'x', 'X'].contains l.kind then 4 else 3
    (grouped size separator (digits.length + least.toNat) digits.reverse least).reverse
  | none => List.replicate (least.toNat - digits.length) '0' ++ digits

/-- A number in its field. -/
def lay (l : Layout) (f : Figure) : List Char :=
  let sign := match l.sign? with
    | some '-' | none => []
    | some c => [c]
  let width : Int := (l.width?.map Int.ofNat).getD (-1)
  let fixed : Int := sign.length + f.lead.length + f.tail.length
  let least := if l.fill = '0' ∧ l.alignment = .inside then width - fixed else 0
  let digits := if f.digits.isEmpty then [] else groupedBy l f.digits least
  let missing := (width - fixed - digits.length).toNat
  let (before, inside, after) := match l.alignment with
    | .left => (0, 0, missing)
    | .right => (missing, 0, 0)
    | .centre => (missing / 2, 0, missing - missing / 2)
    | .inside => (0, missing, 0)
  List.replicate before l.fill ++ sign ++ f.lead ++ List.replicate inside l.fill ++ digits ++ f.tail ++
    List.replicate after l.fill

/-! ## Whole numbers -/

/-- The base of a kind of numbers. -/
def baseOf (kind : Char) : Nat :=
  match kind with
  | 'b' => 2
  | 'o' => 8
  | 'x' | 'X' => 16
  | _ => 10

/-- A whole number in a base. -/
def ofWhole (l : Layout) (n : Nat) : Figure :=
  let raise (cs : List Char) : List Char := if l.kind = 'X' then cs.map Char.toUpper else cs
  let base := baseOf l.kind
  { lead := if l.showsBase ∧ base ≠ 10 then ['0', l.kind] else []
    digits := raise (Nat.toDigits base n) }

/-! ## Fractions -/

/-- A number to the nearest that has so many digits in a base, to an even one of two. -/
def rounded (base places n : Nat) : Nat :=
  let unit := base.pow ((Nat.toDigits base n).length - places)
  let below := n / unit
  let above := 2 * (n % unit)
  unit * (if above < unit ∨ (above = unit ∧ below % 2 = 0) then below else below + 1)

/-- A number as exactly as fractions are kept. -/
def kept (n : Nat) : Nat := rounded 2 53 n

/-- The point of a fraction and what follows it; the point stands alone only if that is asked for. -/
def pointed (l : Layout) (places : List Char) : List Char := if places.isEmpty ∧ ¬ l.showsBase then [] else '.' :: places

/-- Text without zeros at its end. -/
def withoutZeros (cs : List Char) : List Char := (cs.reverse.dropWhile (· == '0')).reverse

/-- A number with a fraction, without an exponent. -/
def ofFixed (l : Layout) (places n : Nat) : Figure :=
  { digits := Nat.toDigits 10 n, tail := pointed l (List.replicate places '0') }

/-- An exponent of ten. -/
def exponent (mark : Char) (n : Nat) : List Char :=
  mark :: '+' :: List.replicate (2 - (Nat.toDigits 10 n).length) '0' ++ Nat.toDigits 10 n

/-- A number with one digit before the point, so many after it, and an exponent. -/
def ofScientific (l : Layout) (mark : Char) (places n : Nat) : Figure :=
  let digits := Nat.toDigits 10 (rounded 10 (places + 1) n)
  let shown := digits.take (places + 1)
  { digits := shown.take 1
    tail := pointed l (shown.drop 1 ++ List.replicate (places + 1 - shown.length) '0') ++ exponent mark (digits.length - 1) }

/-- A number with so many digits, with an exponent if it is too great for them. -/
def ofGeneral (l : Layout) (mark : Char) (places n : Nat) : Figure :=
  let digits := Nat.toDigits 10 (rounded 10 places n)
  let shorten (cs : List Char) : List Char := if l.showsBase then cs else withoutZeros cs
  if places < digits.length then
    { digits := digits.take 1, tail := pointed l (shorten ((digits.take places).drop 1)) ++ exponent mark (digits.length - 1) }
  else { digits := digits, tail := pointed l (shorten (List.replicate (places - digits.length) '0')) }

end Figure

/-- What a layout asks for that a number has not, or that there is no room for. -/
def Layout.numberFault? (l : Layout) (subject : String) (n : Nat) : Option Layout.Fault :=
  if ['b', 'c', 'd', 'o', 'x', 'X', 'n'].contains l.kind then
    if l.limit?.isSome then some .limitsNumber
    else if l.dropsZeroSign then some .dropsZeroSignOfNumber
    else if l.kind = 'c' ∧ l.sign?.isSome then some .showsSignOfCharacter
    else if l.kind = 'c' ∧ l.showsBase then some .showsBaseOfCharacter
    else if l.kind = 'c' ∧ 0x10FFFF < n then some .noCharacter
    else if widthLimit < l.width?.getD 0 then some .noRoom
    else none
  else if ['e', 'E', 'f', 'F', 'g', 'G', '%'].contains l.kind then
    if 0x7FFFFFFF < l.limit?.getD 0 then some .limitTooGreat
    else if widthLimit < max (l.width?.getD 0) (l.limit?.getD 0) then some .noRoom
    else none
  else some (.unknownKind l.kind subject)

/-- A number as a layout writes it. -/
def Figure.ofNumber (l : Layout) (n : Nat) : Figure :=
  let places := l.limit?.getD 6
  match l.kind with
  | 'c' => { digits := [], tail := [Char.ofNat n] }
  | 'e' | 'E' => .ofScientific l l.kind places (kept n)
  | 'f' | 'F' => .ofFixed l places (kept n)
  | 'g' => .ofGeneral l 'e' (max places 1) (kept n)
  | 'G' => .ofGeneral l 'E' (max places 1) (kept n)
  | '%' =>
    let f := Figure.ofFixed l places (kept (100 * kept n))
    { f with tail := f.tail ++ ['%'] }
  | _ => .ofWhole l n

/-- A number of a kind laid out as a notation says. -/
def laidOutNumber (subject : String) (written : List Char) (n : Nat) : Except Layout.Fault (List Char) := do
  let l ← Layout.read (Layout.ofNumbers subject) written
  match l.numberFault? subject n with
  | some fault => throw fault
  | none => return (Figure.ofNumber l n).lay l

end ClassChain.Text

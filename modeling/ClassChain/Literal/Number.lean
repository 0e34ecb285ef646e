import ClassChain.Literal.Fault

/-!
# Numbers

A number is whole, in one of four bases, or a fraction, or imaginary; single underscores may stand between digits. What follows a
number without a blank may be no part of a name, but for a few words.

`suffix_of_tailDigits` says that reading digits takes them from the front.
-/

namespace ClassChain.Literal

/-- What a number is. -/
inductive Numeral where
  /-- A whole number, with so many decimal digits. -/
  | whole (digits : Nat)
  | fraction
  | imaginary
  deriving DecidableEq, Repr

/-- More digits, with single underscores between; a wrong character after an underscore is a fault. -/
def tailDigits (isDigit : Char → Bool) (fault : Char → Fault) : List Char → Except Fault (List Char)
  | [] => .ok []
  | ['_'] => .error (fault '_')
  | '_' :: c :: cs => if isDigit c then tailDigits isDigit fault cs else .error (fault c)
  | c :: cs => if isDigit c then tailDigits isDigit fault cs else .ok (c :: cs)

/-- What is left after more digits ends the text. -/
theorem suffix_of_tailDigits {isDigit : Char → Bool} {fault : Char → Fault} {cs rest : List Char}
    (h : tailDigits isDigit fault cs = .ok rest) : rest <:+ cs := by
  fun_induction tailDigits isDigit fault cs with
  | case1 => cases h; exact List.suffix_rfl
  | case2 => cases h
  | case3 c cs hc ih => exact (ih h).trans ((List.suffix_cons c cs).trans (List.suffix_cons _ _))
  | case4 => cases h
  | case5 c cs _ _ hc ih => exact (ih h).trans (List.suffix_cons c cs)
  | case6 => cases h; exact List.suffix_rfl

/-- Digits of a base after its letter, at least one, with an underscore before it or not. -/
def baseDigits (isDigit : Char → Bool) (fault : Char → Fault) (cs : List Char) : Except Fault (List Char) :=
  match cs with
  | '_' :: c :: rest => if isDigit c then tailDigits isDigit fault rest else .error (fault c)
  | c :: rest => if isDigit c then tailDigits isDigit fault rest else .error (fault c)
  | [] => .error (fault '_')

/-- Words that may follow a number without a blank. -/
def joinable : List String := ["and", "else", "for", "or", "not"]

/-- A character taken for part of a name until the whole name is looked at. -/
def isNamePart (c : Char) : Bool := c.isAlphanum || c == '_' || 128 ≤ c.toNat

/-- A text opens with a word, and no character of a name follows it. -/
def opensWithWord (cs : List Char) (word : String) : Bool :=
  word.toList.isPrefixOf cs && ((cs.drop word.length).head?.map isNamePart) != some true

/-- What follows a number may follow it without a blank: no letter, or one of a few words. -/
def endsNumber (cs : List Char) : Bool :=
  match cs with
  | [] => true
  | c :: rest =>
    !isNamePart c || joinable.any (opensWithWord cs) || (c == 'i' && ['f', 'n', 's'].contains (rest.headD ' '))

/-- The end of a number of a notation. -/
def numberEnd (kind : Notation) (n : Numeral) (rest : List Char) : Except Fault (Numeral × List Char) :=
  if endsNumber rest then .ok (n, rest) else .error (.badNumber kind)

/-- The decimal digits that follow one. -/
def decimalDigits (cs : List Char) : Except Fault (List Char) := tailDigits Char.isDigit (fun _ => .badNumber .decimal) cs

/-- The end of a decimal number: the letter of imaginary ones may stand there. -/
def decimalEnd (n : Numeral) (cs : List Char) : Except Fault (Numeral × List Char) :=
  match cs with
  | c :: rest => if c = 'j' ∨ c = 'J' then numberEnd .imaginary .imaginary rest else numberEnd .decimal n cs
  | [] => .ok (n, [])

/-- What follows the whole part and the fraction of a number: an exponent may stand there. -/
def exponentEnd (n : Numeral) (cs : List Char) : Except Fault (Numeral × List Char) :=
  match cs with
  | e :: rest =>
    if e = 'e' ∨ e = 'E' then
      match rest with
      | c :: more =>
        if c = '+' ∨ c = '-' then
          if (more.headD ' ').isDigit then do decimalEnd .fraction (← decimalDigits more) else .error (.badNumber .decimal)
        else if c.isDigit then do decimalEnd .fraction (← decimalDigits more)
        else numberEnd .decimal n cs
      | [] => numberEnd .decimal n cs
    else decimalEnd n cs
  | [] => .ok (n, [])

/-- What follows the point of a number. -/
def fractionEnd (cs : List Char) : Except Fault (Numeral × List Char) :=
  if (cs.headD ' ').isDigit then do exponentEnd .fraction (← decimalDigits cs) else exponentEnd .fraction cs

/-- What follows the whole part of a number; `zeroed` says that the part opens with a zero and is not zero. -/
def wholeEnd (digits : Nat) (zeroed : Bool) (cs : List Char) : Except Fault (Numeral × List Char) :=
  match cs with
  | '.' :: rest => fractionEnd rest
  | c :: _ =>
    if zeroed ∧ ¬ ['e', 'E', 'j', 'J'].contains c then .error .leadingZeros else exponentEnd (.whole digits) cs
  | [] => if zeroed then .error .leadingZeros else .ok (.whole digits, [])

/-- A digit of a base. -/
def isDigitOf (kind : Notation) (c : Char) : Bool :=
  match kind with
  | .binary => c == '0' || c == '1'
  | .octal => '0' ≤ c && c ≤ '7'
  | .hexadecimal => c.isDigit || ('a' ≤ c && c ≤ 'f') || ('A' ≤ c && c ≤ 'F')
  | .decimal | .imaginary => c.isDigit

/-- The fault of a character where a digit of a base has to stand. -/
def digitFault (kind : Notation) (c : Char) : Fault := if c.isDigit then .badDigit c kind else .badNumber kind

/-- A number of a base after the letter of the base. -/
def basedNumber (kind : Notation) (cs : List Char) : Except Fault (Numeral × List Char) := do
  let rest ← baseDigits (isDigitOf kind) (digitFault kind) cs
  match rest with
  | c :: _ => if c.isDigit then throw (digitFault kind c) else numberEnd kind (.whole 0) rest
  | [] => return (.whole 0, [])

/-- The number of decimal digits between a text and what follows them. -/
def digitsBetween (cs rest : List Char) : Nat := ((cs.take (cs.length - rest.length)).filter Char.isDigit).length

/-- A number that opens with a zero. -/
def zeroNumber (cs : List Char) : Except Fault (Numeral × List Char) :=
  match cs with
  | '0' :: 'x' :: rest | '0' :: 'X' :: rest => basedNumber .hexadecimal rest
  | '0' :: 'o' :: rest | '0' :: 'O' :: rest => basedNumber .octal rest
  | '0' :: 'b' :: rest | '0' :: 'B' :: rest => basedNumber .binary rest
  | _ => do
    let rest ← decimalDigits cs
    let digits := cs.take (cs.length - rest.length)
    wholeEnd (digitsBetween cs rest) (digits.any fun c => c != '0' && c != '_') rest

/-- The number that text opens with, and what follows. -/
def number (cs : List Char) : Except Fault (Numeral × List Char) :=
  match cs with
  | '.' :: rest => fractionEnd rest
  | '0' :: _ => zeroNumber cs
  | _ => do
    let rest ← decimalDigits cs
    wholeEnd (digitsBetween cs rest) false rest

end ClassChain.Literal

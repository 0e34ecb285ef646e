import ClassChain.Text.Quoted

/-!
# Faults of literals

Why text cannot be read as a literal: a fault of a word, of a bracket or of a quoted text, or a hint at the mistake that a
sequence of words looks like. A text with expressions in it has faults of its own, and the faults of these expressions are its
too.
-/

namespace ClassChain.Literal

/-- The bases of whole numbers, and what else a number may be, as messages call them. -/
inductive Notation where
  | binary
  | octal
  | decimal
  | hexadecimal
  | imaginary
  deriving DecidableEq, Repr

/-- The notation in words. -/
def Notation.name : Notation → String
  | .binary => "binary"
  | .octal => "octal"
  | .decimal => "decimal"
  | .hexadecimal => "hexadecimal"
  | .imaginary => "imaginary"

/-- Why a text with expressions in braces cannot be read. -/
inductive FormatFault where
  /-- A closing brace outside an expression. -/
  | lone
  /-- An expression in the format of an expression in the format of another. -/
  | tooDeep
  | backslash
  | comment
  | unclosedText
  /-- A bracket without its partner. -/
  | unmatched (bracket : Char)
  | crossed (closing opening : Char)
  | tooManyBrackets
  /-- Nothing but blanks, and what follows them unless that is the closing brace. -/
  | noExpression (before? : Option Char)
  | badConversion
  /-- The text ends in an expression, or something else stands where it has to be closed. -/
  | unfinished
  deriving DecidableEq, Repr

/-- A fault of a text with expressions in words. -/
def FormatFault.message : FormatFault → String
  | .lone => "f-string: single '\x7d' is not allowed"
  | .tooDeep => "f-string: expressions nested too deeply"
  | .backslash => "f-string expression part cannot include a backslash"
  | .comment => "f-string expression part cannot include '#'"
  | .unclosedText => "f-string: unterminated string"
  | .unmatched bracket => "f-string: unmatched '" ++ bracket.toString ++ "'"
  | .crossed closing opening =>
    "f-string: closing parenthesis '" ++ closing.toString ++ "' does not match opening parenthesis '" ++ opening.toString ++ "'"
  | .tooManyBrackets => "f-string: too many nested parenthesis"
  | .noExpression (some c) => "f-string: expression required before '" ++ c.toString ++ "'"
  | .noExpression none => "f-string: empty expression not allowed"
  | .badConversion => "f-string: invalid conversion character: expected 's', 'r', or 'a'"
  | .unfinished => "f-string: expecting '\x7d'"

/-- Why text cannot be read. -/
inductive Fault where
  /-- The words follow no rule; the hint names the mistake. -/
  | misread (hint : String)
  /-- A line is set in. -/
  | setIn
  | badCharacter (c : Char)
  | badNumber (kind : Notation)
  | badDigit (digit : Char) (kind : Notation)
  | leadingZeros
  | tooManyDigits (count : Nat)
  /-- A quoted text is not closed; the line where that is noticed. -/
  | unclosedText (isBlock : Bool) (line : Nat)
  /-- A closing bracket without an opening one. -/
  | unopened (closing : Char)
  /-- A bracket that closes another; the line of that one, if it is another line. -/
  | crossed (closing opening : Char) (line? : Option Nat)
  | unclosed (opening : Char)
  | tooManyBrackets
  /-- Something other than a line end after a backslash. -/
  | badContinuation
  /-- Nothing after a line that is to go on. -/
  | nothingMore
  /-- An escape in a quoted text that stands for no character, from one place to before another. -/
  | badEscape (start stop : Nat) (cause : String)
  /-- An escape in quoted bytes that stands for no byte. -/
  | badByte (place : Nat)
  /-- A character in quoted bytes that is no byte. -/
  | wideBytes
  /-- Quoted bytes next to quoted text. -/
  | mixedTexts
  | formatted (fault : FormatFault)
  /-- There is no room for rules in rules so deep. -/
  | tooDeep
  /-- The place of a fault lies before its text. -/
  | misplaced
  /-- A fault of an expression in a text. -/
  | embedded (fault : Fault)
  deriving DecidableEq, Repr

/-- The number of a character in capital hexadecimal digits. -/
def codeOf (c : Char) : String := "U+" ++ String.ofList ((Text.hex 4 c.toNat).map Char.toUpper)

/-- A fault in words. -/
def Fault.message : Fault → String
  | .misread hint => hint
  | .setIn => "unexpected indent"
  | .badCharacter c =>
    if Text.isPrintable c then "invalid character '" ++ c.toString ++ "' (" ++ codeOf c ++ ")"
    else "invalid non-printable character " ++ codeOf c
  | .badNumber kind => "invalid " ++ kind.name ++ " literal"
  | .badDigit digit kind => "invalid digit '" ++ digit.toString ++ "' in " ++ kind.name ++ " literal"
  | .leadingZeros =>
    "leading zeros in decimal integer literals are not permitted; use an 0o prefix for octal integers"
  | .tooManyDigits count =>
    "Exceeds the limit (4300 digits) for integer string conversion: value has " ++ toString count ++
      " digits; use sys.set_int_max_str_digits() to increase the limit" ++
      " - Consider hexadecimal for huge integer literals to avoid decimal conversion limits."
  | .unclosedText isBlock line =>
    "unterminated " ++ (if isBlock then "triple-quoted " else "") ++ "string literal (detected at line " ++ toString line ++ ")"
  | .unopened closing => "unmatched '" ++ closing.toString ++ "'"
  | .crossed closing opening line? =>
    "closing parenthesis '" ++ closing.toString ++ "' does not match opening parenthesis '" ++ opening.toString ++ "'" ++
      match line? with
      | some line => " on line " ++ toString line
      | none => ""
  | .unclosed opening => "'" ++ opening.toString ++ "' was never closed"
  | .tooManyBrackets => "too many nested parentheses"
  | .badContinuation => "unexpected character after line continuation character"
  | .nothingMore => "unexpected EOF while parsing"
  | .badEscape start stop cause =>
    "(unicode error) 'unicodeescape' codec can't decode bytes in position " ++ toString start ++ "-" ++ toString (stop - 1) ++
      ": " ++ cause
  | .badByte place => "(value error) invalid \\x escape at position " ++ toString place
  | .wideBytes => "bytes can only contain ASCII literal characters"
  | .mixedTexts => "cannot mix bytes and nonbytes literals"
  | .formatted fault => fault.message
  | .tooDeep => ""
  | .misplaced => "Negative size passed to PyUnicode_New"
  | .embedded fault => "f-string: " ++ fault.message

/-- The fault of an expression as it is told of the text around it. Faults inside words and brackets are told as they are. -/
def Fault.embed : Fault → Fault
  | .badCharacter c => .badCharacter c
  | .badNumber kind => .badNumber kind
  | .badDigit digit kind => .badDigit digit kind
  | .leadingZeros => .leadingZeros
  | .unclosedText isBlock line => .unclosedText isBlock line
  | .unopened closing => .unopened closing
  | .crossed closing opening line? => .crossed closing opening line?
  | .tooManyBrackets => .tooManyBrackets
  | .tooDeep => .tooDeep
  | .misplaced => .misplaced
  | .embedded fault => .embedded fault
  | fault => .embedded fault

/-- A fault of the reading and not of the text. No other fault is told in its place. -/
def Fault.isOfReading : Fault → Bool
  | .tooDeep | .misplaced => true
  | _ => false

/-- The fault of words that look like no mistake in particular. -/
def Fault.plain : Fault := .misread "invalid syntax"

end ClassChain.Literal

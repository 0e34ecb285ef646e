import ClassChain.Literal.Bracket
import ClassChain.Literal.Number
import ClassChain.Literal.Quotation
import ClassChain.Text.Name

/-!
# Words of expressions

An expression is names, numbers, quoted texts and symbols, with blanks between. A line end counts only outside brackets, and so
does how far a line is set in. The words are read up to the first that cannot be read.

`headD_of_marginsAfter?` says that a line's margin is the one that is open after it.
-/

namespace ClassChain.Literal

/-- A word of an expression. -/
inductive Word where
  | name (s : String)
  | number (n : Numeral)
  | text (q : Quotation)
  | symbol (s : String)
  | lineEnd
  | setIn
  | finish
  deriving DecidableEq, Repr

/-- A word with the line where it starts and the number of brackets open after it. -/
structure Token where
  word : Word
  line : Nat
  depth : Nat
  /-- To tell where the word ends the end of the text is looked at. -/
  looksPast : Bool
  /-- The text from the word on. -/
  onward : List Char
  deriving DecidableEq, Repr

/-! ## Symbols -/

/-- The symbols of more than one character, the longer ones first. -/
def longSymbols : List String :=
  ["...", "**=", "//=", "<<=", ">>=", "!=", "%=", "&=", "**", "*=", "+=", "-=", "->", "//", "/=", ":=", "<<", "<=", "<>", "==",
    ">=", ">>", "@=", "^=", "|="]

/-- The symbol that text opens with, and what follows. -/
def symbol (c : Char) (cs : List Char) : String × List Char :=
  match longSymbols.find? fun s => s.toList.isPrefixOf (c :: cs) with
  | some s => (s, (c :: cs).drop s.length)
  | none => (c.toString, cs)

/-- The longest symbols end where they are complete; after a point another is looked for behind the next. -/
def symbolLooksPast (s : String) (rest : List Char) : Bool := (s.length < 3 && rest.isEmpty) || (s == "." && rest == ['.'])

/-! ## Margins -/

/-- How far a line is set in: with a tab that goes on to the next eighth column, and with a tab that is one column wide. -/
structure Margin where
  column : Nat := 0
  narrow : Nat := 0
  deriving DecidableEq, Repr

/-- What follows a backslash: the rest of the text, if it is another line. -/
def nextLine : List Char → Except Fault (List Char)
  | ['\n'] => .error .nothingMore
  | '\n' :: cs => .ok cs
  | _ => .error .badContinuation

/-- The margin that blanks make, the line where it ends and what follows it. If it goes on behind a backslash, `first` is how
far the first backslash was set in, and that is the margin. -/
def marginFrom (line : Nat) (m : Margin) (first : Nat) : List Char → Except Fault (Margin × Nat × List Char)
  | ' ' :: cs => marginFrom line ⟨m.column + 1, m.narrow + 1⟩ first cs
  | '\t' :: cs => marginFrom line ⟨(m.column / 8 + 1) * 8, m.narrow + 1⟩ first cs
  | '\x0c' :: cs => marginFrom line {} first cs
  | '\\' :: '\n' :: c :: cs => marginFrom (line + 1) m (if first = 0 then m.column else first) (c :: cs)
  | '\\' :: cs => (nextLine cs).map fun cs => (m, line, cs)
  | cs => .ok (if first = 0 then m else ⟨first, first⟩, line, cs)

/-- The greatest number of margins that are open at a time. -/
def marginLimit : Nat := 99

/-- The margins open after a line, the latest first; `none` if its margin fits none of them. -/
def marginsAfter? (m : Margin) (margins : List Margin) : Option (List Margin) :=
  let latest := margins.headD {}
  if latest.column < m.column then
    if margins.length < marginLimit ∧ latest.narrow < m.narrow then some (m :: margins) else none
  else
    let left := margins.dropWhile (m.column < ·.column)
    if left.headD {} = m then some left else none

/-- A line's margin is the one that is open after it. -/
theorem headD_of_marginsAfter? {m : Margin} {margins left : List Margin} (h : marginsAfter? m margins = some left) :
    left.headD {} = m := by
  unfold marginsAfter? at h
  simp only at h
  split at h
  · split at h
    · cases h; rfl
    · cases h
  · split at h
    · next heq => cases h; exact heq
    · cases h

/-! ## Text -/

/-- Where the words of a text end before their time. -/
structure Stop where
  fault : Fault
  /-- The fault is told even if the words before it follow no rule. -/
  isUrgent : Bool
  /-- The latest bracket open there, with its line. -/
  bracket? : Option (Char × Nat)
  deriving DecidableEq, Repr

/-- The words of a text. -/
structure Tokens where
  tokens : List Token
  stop? : Option Stop
  deriving DecidableEq, Repr

/-- Words after one more. -/
def Tokens.cons (t : Token) (ts : Tokens) : Tokens := { ts with tokens := t :: ts.tokens }

/-- What is known at a place of a text. -/
structure Place where
  line : Nat
  /-- The brackets open, the latest first, each with its line. -/
  brackets : List (Char × Nat) := []
  /-- A line starts here. -/
  isFresh : Bool := true
  /-- The margins open, the latest first. -/
  margins : List Margin := []

/-- No words, because of a fault. -/
def Place.stop (p : Place) (fault : Fault) (isUrgent : Bool) : Tokens := ⟨[], some ⟨fault, isUrgent, p.brackets.head?⟩⟩

/-- No words, because a line does not go on as it should; at the end of the text an open bracket is to blame. -/
def Place.halt (p : Place) (fault : Fault) : Tokens :=
  match fault, p.brackets with
  | .nothingMore, (opened, _) :: _ => p.stop (.unclosed opened) false
  | _, _ => p.stop fault false

/-- A word that starts at a place, and the text from there on. -/
def Place.token (p : Place) (word : Word) (looksPast : Bool) (onward : List Char) : Token :=
  ⟨word, p.line, p.brackets.length, looksPast, onward⟩

/-- The last word, unless a bracket is open. -/
def Place.finish (p : Place) : Tokens :=
  if p.brackets.isEmpty then ⟨[p.token .finish true []], none⟩ else p.halt .nothingMore

/-- A blank inside a line. -/
def isInnerBlank (c : Char) : Bool := c == ' ' || c == '\t' || c == '\x0c'

/-- The first character of a name that may not stand there. -/
def nameFault? (name : List Char) : Option Fault :=
  match name with
  | [] => none
  | c :: cs => (if Text.startsName c then cs.find? (!Text.goesOnName ·) else some c).map .badCharacter

/-- The word at a place inside a line, with the place and the text after it. -/
def wordAt (p : Place) (c : Char) (cs : List Char) : Except Fault (Token × Place × List Char) :=
  match opening false false false false (c :: cs) with
  | some (q, quote, body) => do
    let (q, rest) ← quotation q quote p.line body
    let isEmptyLast := body.length == 1 && rest.isEmpty
    return (p.token (.text q) isEmptyLast (c :: cs),
      { p with line := p.line + (body.take (body.length - rest.length)).count '\n' }, rest)
  | none =>
    if c.isDigit ∨ (c = '.' ∧ (cs.headD ' ').isDigit) then do
      let (n, rest) ← number (c :: cs)
      return (p.token (.number n) rest.isEmpty (c :: cs), p, rest)
    else if isNamePart c then
      let name := (c :: cs).takeWhile isNamePart
      let rest := cs.dropWhile isNamePart
      match nameFault? name with
      | some fault => .error fault
      | none => .ok (p.token (.name (String.ofList name)) rest.isEmpty (c :: cs), p, rest)
    else do
      let (s, rest) := symbol c cs
      let brackets ← if s.length = 1 then bracketsAfter p.brackets p.line c else pure p.brackets
      if c.toNat < 32 ∨ c.toNat = 127 then throw (.badCharacter c)
      let after := { p with brackets }
      return (after.token (.symbol s) (symbolLooksPast s rest) (c :: cs), after, rest)

/-- Text without the comment that it opens with. -/
def dropComment : List Char → List Char
  | '#' :: cs => cs.dropWhile (· != '\n')
  | cs => cs

/-- The words from a place on, at most so many steps of them. -/
def tokensWithin : Nat → Place → List Char → Tokens
  | 0, _, _ => ⟨[], none⟩
  | steps + 1, p, cs =>
    if p.isFresh then
      match marginFrom p.line {} 0 cs with
      | .error fault => p.halt fault
      | .ok (m, line, cs) =>
        let p := { p with line, isFresh := false }
        if cs.head? = some '#' ∨ cs.head? = some '\n' then
          match dropComment cs with
          | '\n' :: rest => tokensWithin steps { p with line := p.line + 1, isFresh := true } rest
          | _ => p.finish
        else if !p.brackets.isEmpty then tokensWithin steps p cs
        else
          match marginsAfter? m p.margins with
          | none => p.stop .setIn false
          | some margins =>
            let next := { p with margins }
            if p.margins.length < margins.length then (tokensWithin steps next cs).cons (p.token .setIn cs.isEmpty cs)
            else tokensWithin steps next cs
    else
      match dropComment (cs.dropWhile isInnerBlank) with
      | [] => p.finish
      | '\n' :: rest =>
        let words := tokensWithin steps { p with line := p.line + 1, isFresh := true } rest
        if p.brackets.isEmpty then words.cons (p.token .lineEnd false ('\n' :: rest)) else words
      | '\\' :: rest =>
        match nextLine rest with
        | .ok rest => tokensWithin steps { p with line := p.line + 1 } rest
        | .error fault => p.halt fault
      | c :: rest =>
        match wordAt p c rest with
        | .ok (token, next, rest) => (tokensWithin steps next rest).cons token
        | .error fault => p.stop fault true

/-! ## Sources -/

/-- A text with the line and the column where it starts. -/
structure Source where
  text : List Char
  line : Nat := 1
  column : Nat := 0

/-- The words of a text. -/
def Source.words (s : Source) : Tokens := tokensWithin (2 * s.text.length + 2) { line := s.line } s.text

/-- How far text before something reaches in its last line; the first line starts at a column. -/
def columnAfter (column : Nat) (before : List Char) : Nat :=
  before.foldl (fun column c => if c = '\n' then 0 else column + c.utf8Size) column

/-- The column where a word starts. -/
def Source.columnOf (s : Source) (t : Token) : Nat := columnAfter s.column (s.text.take (s.text.length - t.onward.length))

/-- Columns are told from where the text starts, and in later lines too. There a word may stand before that column; it is
misplaced. -/
def Source.isMisplaced (s : Source) (t : Token) : Bool := s.columnOf t + 1 < s.column

end ClassChain.Literal

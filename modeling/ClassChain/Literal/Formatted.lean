import ClassChain.Literal.Escape
import ClassChain.Literal.Token

/-!
# Texts with expressions

A text may hold expressions in braces, each with a conversion and a format after it; the format is text of the same kind, which
may hold expressions but once more. Doubled braces stand for themselves. The text between expressions is looked at piece by
piece, and the fault that is told is the first.

`append_of_piece` says that a piece and what follows it are the text.
-/

namespace ClassChain.Literal.Quotation

/-! ## Pieces of text -/

/-- What is being read inside a piece. -/
inductive Reading where
  | text
  | escape
  /-- A brace may open the name of a character here. -/
  | nameStart
  | characterName
  deriving DecidableEq, Repr

/-- Where a piece ends. -/
inductive Border where
  | finish
  /-- A brace that is written twice; the piece holds it once. -/
  | doubled
  | opening
  | closing
  deriving DecidableEq, Repr

/-- A piece of text, where it ends and what follows that. -/
structure Piece where
  content : List Char
  border : Border
  rest : List Char
  deriving DecidableEq, Repr

/-- The piece that text opens with. Braces are doubled only outside expressions. -/
def piece (isRaw isOuter : Bool) (reading : Reading) : List Char → Piece
  | [] => ⟨[], .finish, []⟩
  | c :: cs =>
    let goOn (reading : Reading) : Piece :=
      let p := piece isRaw isOuter reading cs
      { p with content := c :: p.content }
    match reading with
    | .characterName => goOn (if c = '\x7d' then .text else .characterName)
    | .nameStart => goOn (if c = '\x7b' then .characterName else .text)
    | .text | .escape =>
      if reading = .escape ∧ c = 'N' then goOn .nameStart
      else if reading = .text ∧ c = '\\' ∧ ¬ isRaw then goOn .escape
      else if c = '\x7b' ∨ c = '\x7d' then
        if isOuter ∧ cs.head? = some c then ⟨[c], .doubled, cs.drop 1⟩
        else ⟨[], if c = '\x7b' then .opening else .closing, cs⟩
      else goOn .text

/-- A piece, its border and what follows are the text. -/
theorem append_of_piece (isRaw isOuter : Bool) (reading : Reading) (cs : List Char) :
    ∃ border, (piece isRaw isOuter reading cs).content ++ border ++ (piece isRaw isOuter reading cs).rest = cs := by
  induction cs generalizing reading with
  | nil => exact ⟨[], rfl⟩
  | cons c cs ih =>
    have goOn (r : Reading) : ∃ border, (c :: (piece isRaw isOuter r cs).content) ++ border ++ (piece isRaw isOuter r cs).rest =
        c :: cs := (ih r).imp fun border h => by rw [List.cons_append, List.cons_append, h]
    unfold piece
    cases reading with
    | characterName => exact goOn _
    | nameStart => exact goOn _
    | text | escape =>
      simp only
      split
      · exact goOn _
      · split
        · exact goOn _
        · split
          · split
            · exact ⟨cs.take 1, congrArg (c :: ·) (List.take_append_drop 1 cs)⟩
            · exact ⟨[c], by simp⟩
          · exact goOn _

/-! ## Expressions -/

/-- The character before which an expression ends, outside brackets and quotes. -/
def endsExpression (c : Char) : Bool := ['!', ':', '=', '\x7d'].contains c

/-- Symbols of two characters that do not end an expression, though the first alone might. -/
def isJoined (c : Char) (next? : Option Char) : Bool := ['!', '=', '<', '>'].contains c && next? == some '='

/-- The expression that text opens with, and the rest of the text, which opens with the end of the expression. `quote?` is the
open quote, with whether it is threefold; `brackets` are the open brackets, the latest first; so many characters are passed
over. -/
def expression (passed : Nat) (quote? : Option (Char × Bool)) (brackets : List Char) :
    List Char → Except FormatFault (List Char × List Char)
  | [] =>
    match quote?, brackets with
    | some _, _ => .error .unclosedText
    | none, c :: _ => .error (.unmatched c)
    | none, [] => .error .unfinished
  | c :: cs =>
    let goOn (passed : Nat) (quote? : Option (Char × Bool)) (brackets : List Char) : Except FormatFault (List Char × List Char) :=
      (expression passed quote? brackets cs).map fun (inner, rest) => (c :: inner, rest)
    let isThreefold := [c, c].isPrefixOf cs
    match passed, quote? with
    | passed + 1, _ => goOn passed quote? brackets
    | 0, some (quote, isBlock) =>
      if c = '\\' then .error .backslash
      else if c ≠ quote then goOn 0 quote? brackets
      else if isBlock then if isThreefold then goOn 2 none brackets else goOn 0 quote? brackets
      else goOn 0 none brackets
    | 0, none =>
      if c = '\\' then .error .backslash
      else if c = '\'' ∨ c = '"' then if isThreefold then goOn 2 (some (c, true)) brackets else goOn 0 (some (c, false)) brackets
      else if c = '(' ∨ c = '[' ∨ c = '\x7b' then
        if bracketLimit ≤ brackets.length then .error .tooManyBrackets else goOn 0 none (c :: brackets)
      else if c = '#' then .error .comment
      else if brackets.isEmpty ∧ isJoined c cs.head? then goOn 1 none brackets
      else if brackets.isEmpty ∧ endsExpression c then .ok ([], c :: cs)
      else if c = ')' ∨ c = ']' ∨ c = '\x7d' then
        match brackets with
        | [] => .error (.unmatched c)
        | opened :: below => if partner? opened = some c then goOn 0 none below else .error (.crossed c opened)
      else goOn 0 none brackets

/-- A blank that may stand alone in braces without being an expression. -/
def isIdle (c : Char) : Bool := [' ', '\t', '\n', '\x0c'].contains c

/-- What follows an equals sign behind an expression, and blanks. -/
def afterEquals : List Char → List Char
  | '=' :: cs => cs.dropWhile fun c => isIdle c || c == '\x0b'
  | cs => cs

/-- What follows a conversion. -/
def afterConversion : List Char → Except FormatFault (List Char)
  | ['!'] => .error .unfinished
  | '!' :: c :: cs => if ['s', 'r', 'a'].contains c then .ok cs else .error .badConversion
  | cs => .ok cs

/-! ## Whole texts -/

/-- What is wrong with the expression before a place. -/
def emptyFault? (inner rest : List Char) : Option FormatFault :=
  if inner.all isIdle then some (.noExpression (rest.head?.filter (· != '\x7d'))) else none

/-- What follows text with expressions: nothing, or what follows the closing brace around a format. The pieces are at most so
many; `fault?` tells what is wrong with an expression, given what follows its opening brace too. -/
def afterPieces (isRaw : Bool) (fault? : (place inner : List Char) → Option Fault) :
    Nat → (depth : Nat) → List Char → Except Fault (List Char)
  | 0, _, cs => .ok cs
  | count + 1, depth, cs => do
    let p := piece isRaw (depth == 0) .text cs
    if p.border = .closing ∧ depth = 0 then throw (.formatted .lone)
    if let some fault := if isRaw then none else textFault? p.content then throw fault
    match p.border with
    | .finish => if depth = 0 then return [] else throw (.formatted .unfinished)
    | .doubled => afterPieces isRaw fault? count depth p.rest
    | .closing => return p.rest
    | .opening =>
      if 2 ≤ depth then throw (.formatted .tooDeep)
      let (inner, rest) ← (expression 0 none [] p.rest).mapError .formatted
      if let some fault := ((emptyFault? inner rest).map .formatted).orElse fun _ => fault? p.rest inner then throw fault
      let rest ← (afterConversion (afterEquals rest)).mapError .formatted
      let rest ← match rest with
        | '\x7d' :: rest => pure rest
        | ':' :: format => afterPieces isRaw fault? count (depth + 1) format
        | _ => throw (.formatted .unfinished)
      afterPieces isRaw fault? count depth rest

/-- The letters and quotes in front of a quoted text. -/
def front (written : List Char) : List Char :=
  let letters := written.takeWhile Char.isAlpha
  let quotes := (written.drop letters.length).take 3
  letters ++ if quotes.length = 3 ∧ quotes.all (some · == quotes.head?) then quotes else quotes.take 1

end ClassChain.Literal.Quotation

namespace ClassChain.Literal

/-- The expression in braces in a word, after so much of the word. It starts at the brace; when nothing else stands in the line of
the brace, it starts where the word does if that is the same line, and otherwise where the line does. -/
def Source.expression (s : Source) (t : Token) (before inner : List Char) : Source where
  text := inner
  line := t.line + before.count '\n'
  column :=
    if (inner.dropWhile isInnerBlank).head? ≠ some '\n' then columnAfter (s.columnOf t) before
    else if before.contains '\n' then 0
    else s.columnOf t

/-- What is wrong with a text with expressions, a word of a source; `fault?` tells what is wrong with an expression. -/
def Quotation.formattedFault? (q : Quotation) (s : Source) (t : Token) (fault? : Source → Option Fault) : Option Fault :=
  let before (place : List Char) : List Char := front t.onward ++ q.content.take (q.content.length - place.length - 1)
  let innerFault? (place inner : List Char) : Option Fault := fault? (s.expression t (before place) inner)
  match afterPieces q.isRaw innerFault? (q.content.length + 1) 0 q.content with
  | .ok _ => none
  | .error fault => some fault

/-- What is wrong with quoted texts next to each other in a source. Each is looked at by itself, then beside the one before, then
the expressions in it are. -/
def joinedFault? (s : Source) (fault? : Source → Option Fault) (before? : Option Quotation) :
    List (Quotation × Token) → Option Fault
  | [] => none
  | (q, t) :: more =>
    let own? := if q.isFormatted then none else q.fault?.map fun fault =>
      if fault = .wideBytes ∧ s.isMisplaced t then .misplaced else fault
    own?.orElse fun _ =>
      if before?.any (·.isBytes != q.isBytes) then some .mixedTexts
      else
        let inner? := if q.isFormatted then q.formattedFault? s t fault? else none
        inner?.orElse fun _ => joinedFault? s fault? (some q) more

end ClassChain.Literal

import ClassChain.Literal.Grammar
import ClassChain.Text.Newline

/-!
# Reading expressions

A text is read as an expression in two readings, the second of which looks for known mistakes. Of several faults one is told: a
word that cannot be read, even a later one, or a hint, or that the words look like no mistake in particular. Expressions in
quoted texts are read in the same way, in brackets.
-/

namespace ClassChain.Literal

/-- The fault told in place of another that was found when words up to a last one were looked at: a later word that cannot be
read, or a bracket of an earlier line that nothing closes. -/
def Tokens.toldFault (words : Tokens) (last? : Option Token) (fault : Fault) : Fault :=
  match words.stop? with
  | some stop =>
    if stop.isUrgent then stop.fault
    else
      match stop.bracket?, last? with
      | some (opened, openedLine), some last => if openedLine < last.line then .unclosed opened else fault
      | _, _ => fault
  | none => fault

/-- The fault told in place of a hint: the hint itself, if the end of the text was looked at to give it. -/
def Tokens.toldHint (words : Tokens) (last? : Option Token) (fault : Fault) : Fault :=
  if fault.isOfReading || last?.any (·.looksPast) then fault else words.toldFault last? fault

/-- A fault that was found at a word. Faults of rules and of texts side by side are told with the column of the word, faults of
numbers with that of the text. -/
def Source.faultAt (s : Source) (site? : Option Token) (fault : Fault) : Fault :=
  let isLost := match fault with
    | .misread _ | .formatted _ | .mixedTexts => site?.any s.isMisplaced
    | .tooManyDigits _ => 0 < s.column
    | _ => false
  if isLost then .misplaced else fault

/-- How deep rules may stand in rules for so many words: more than any grammatical text needs. -/
def depthFor (words : Nat) : Nat := 400 * (words + 2)

/-- The tree that a text is by a rule, or why there is none. -/
def Source.tree (s : Source) (grammar : Grammar Rule) (rule : Rule) : Except Fault Tree :=
  let words := s.words
  let found := words.tokens.toArray
  let lastAt (progress : Progress Rule) : Option Token := found[progress.reach - 1]?
  let read (seeksMistakes : Bool) (progress : Progress Rule) :=
    grammar.readWithin words found (depthFor found.size) 0 seeksMistakes (.rule rule) 0 progress
  match read false {} with
  | (.fits [tree] _, _) => .ok tree
  | (.stopped fault, _) => .error fault
  | (.faulty fault site?, progress) => .error (words.toldHint (lastAt progress) (s.faultAt site? fault))
  | (_, first) =>
    match read true { reach := first.reach } with
    | (.stopped fault, _) => .error fault
    | (.faulty fault site?, progress) => .error (words.toldHint (lastAt progress) (s.faultAt site? fault))
    | (_, progress) =>
      if (lastAt first).any (·.word == .setIn) then .error .setIn
      else .error (words.toldFault (lastAt progress) (s.faultAt (lastAt first) .plain))

/-- What is wrong with an expression in a text; texts may stand in it, so deep. It is read in brackets. -/
def innerFault? : Nat → Source → Option Fault
  | 0, _ => none
  | depth + 1, s =>
    let s := { s with text := '(' :: s.text ++ [')', '\n'] }
    match s.tree (grammar (textsFault? s (innerFault? depth))) .starExpressions with
    | .ok _ => none
    | .error fault => some fault.embed

/-- The tree of an expression, or why there is none. -/
def treeOf (text : List Char) : Except Fault Tree :=
  let s : Source := { text := Text.unify text }
  s.tree (grammar (textsFault? s (innerFault? text.length))) .whole

end ClassChain.Literal

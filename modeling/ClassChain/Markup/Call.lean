import ClassChain.Literal.Reading
import ClassChain.Text.Blank
import ClassChain.Text.Word

/-!
# Calls in tags

A tag that opens with an at sign may have a call after an equals sign: a name with given values in brackets, a name alone, or
values alone. The given values are read as a literal when the tag is closed.
-/

namespace ClassChain.Markup

/-- A character of the name that is called. -/
def isCallName (c : Char) : Bool := c == '.' || Text.isWord c

/-- The given values of a call: what stands in brackets after the name, nothing after a name alone, and otherwise all of it. -/
def given (call : List Char) : List Char :=
  let cs := Text.trimBlanks call
  match cs.dropWhile isCallName with
  | [] => ['(', ')']
  | '(' :: rest => if rest.getLast? = some ')' ∧ '\n' ∉ rest then '(' :: rest else cs
  | _ => cs

/-- A call whose given values are no literal. -/
structure CallFault where
  call : List Char
  refusal : Literal.Refusal
  deriving DecidableEq, Repr

/-- What is wrong with a call. -/
def callFault? (call : List Char) : Option CallFault :=
  match Literal.read (given call) with
  | .ok _ => none
  | .error refusal => some ⟨call, refusal⟩

/-- A fault of a call in words. -/
def CallFault.message (f : CallFault) : String :=
  let shown (cs : List Char) : String := Text.quoted (String.ofList cs)
  "error parsing " ++
    (match f.refusal with
      | .unreadable fault => if fault.isOfReading then "" else shown (given f.call) ++ " in "
      | _ => "") ++
    shown f.call ++ "; " ++ f.refusal.message

end ClassChain.Markup

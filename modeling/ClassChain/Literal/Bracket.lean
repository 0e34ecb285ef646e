import ClassChain.Literal.Fault

/-!
# Brackets

Which brackets close which, and how many may be open at a time.
-/

namespace ClassChain.Literal

/-- The closing bracket of an opening one. -/
def partner? : Char → Option Char
  | '(' => some ')'
  | '[' => some ']'
  | '\x7b' => some '\x7d'
  | _ => none

/-- The greatest number of brackets open at a time. -/
def bracketLimit : Nat := 200

/-- The brackets open after a symbol, the latest first, each with its line. -/
def bracketsAfter (brackets : List (Char × Nat)) (line : Nat) (c : Char) : Except Fault (List (Char × Nat)) :=
  if (partner? c).isSome then
    if bracketLimit ≤ brackets.length then .error .tooManyBrackets else .ok ((c, line) :: brackets)
  else if [')', ']', '\x7d'].contains c then
    match brackets with
    | [] => .error (.unopened c)
    | (opened, openedLine) :: below =>
      if partner? opened = some c then .ok below
      else .error (.crossed c opened (if openedLine = line then none else some openedLine))
  else .ok brackets

end ClassChain.Literal

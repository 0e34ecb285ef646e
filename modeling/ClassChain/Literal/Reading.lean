import ClassChain.Literal.Expression

/-!
# Reading literals

A literal is an expression made of numbers, quoted texts, truth values, nothing and an ellipsis, of tuples, sets and
dictionaries of these, and of the sum of a real and an imaginary number. Any other expression is refused, and so is a set or
dictionary one of whose members or keys can be changed. There is no room for trees that stand in each other too deep.
-/

namespace ClassChain.Literal

/-! ## Heights -/

/-- Parts that stand in each other from the left: operands with operators between, unless the operators join any number of
operands, and what follows a value. -/
def isStacked : Kind → List Tree → Bool
  | .sum, _ | .applied, _ => true
  | .operation, parts => !parts.any fun t => t.isMark "and" || t.isMark "or"
  | _, _ => false

mutual

/-- How many trees stand in each other. -/
def Tree.height : Tree → Nat
  | .leaf _ => 1
  | .node kind parts => if isStacked kind parts then stackedHeight 0 parts else greatestHeight parts + 1

/-- How many of several trees stand in each other, with so many before them; operators do not count. -/
def stackedHeight (before : Nat) : List Tree → Nat
  | [] => before
  | .leaf { word := .symbol _, .. } :: ts => stackedHeight before ts
  | t :: ts => stackedHeight (max before t.height + 1) ts

/-- The height of the highest tree. -/
def greatestHeight : List Tree → Nat
  | [] => 0
  | t :: ts => max t.height (greatestHeight ts)

end

/-- The height of the highest tree that there is room for. -/
def heightLimit : Nat := 2920

/-! ## Literals -/

/-- Why an expression is no literal. -/
inductive Refusal where
  /-- It is no expression. -/
  | unreadable (fault : Fault)
  | nullCharacter
  /-- Trees stand in each other so deep that there is no room for them. -/
  | tooHigh
  /-- A dictionary is unpacked. -/
  | unpacked
  /-- Something other than a literal stands in it. -/
  | other
  /-- A member or key that can be changed, by its kind. -/
  | changeable (kind : String)
  deriving DecidableEq, Repr

/-- A refusal in words. -/
def Refusal.message : Refusal → String
  | .unreadable fault => fault.message
  | .nullCharacter => "source code string cannot contain null bytes"
  | .tooHigh => "maximum recursion depth exceeded during ast construction"
  | .unpacked => "malformed node or string: None"
  | .other => "malformed node or string on line 1"
  | .changeable kind => "unhashable type: '" ++ kind ++ "'"

/-- What is known of the value of a literal. -/
inductive Value where
  | real
  | imaginary
  /-- Any other value; if a part of it can be changed, the kind of the first such part. -/
  | other (changeable? : Option String)

/-- What can be changed in a value. -/
def Value.changeable? : Value → Option String
  | .other kind? => kind?
  | _ => none

/-- The number of a leaf or of a signed leaf. -/
def signedNumber? : Tree → Option Value
  | .leaf { word := .number n, .. } => some (if n = .imaginary then .imaginary else .real)
  | .node .signed [_, .leaf { word := .number n, .. }] => some (if n = .imaginary then .imaginary else .real)
  | _ => none

/-- A value becomes a member of a set or a key. -/
def Value.keep (v : Value) : Except Refusal Unit :=
  match v.changeable? with
  | some kind => .error (.changeable kind)
  | none => .ok ()

mutual

/-- The value of a tree. -/
def valueOf : Tree → Except Refusal Value
  | .leaf { word := .text q, .. } => if q.isFormatted then .error .other else .ok (.other none)
  | .leaf { word := .number n, .. } => .ok (if n = .imaginary then .imaginary else .real)
  | .leaf { word := .name n, .. } => if ["True", "False", "None"].contains n then .ok (.other none) else .error .other
  | .leaf { word := .symbol s, .. } => if s = "..." then .ok (.other none) else .error .other
  | .leaf _ => .error .other
  | .node .texts parts => if parts.any Tree.isFormatted then .error .other else .ok (.other none)
  | .node .tuple parts => do return .other ((← valuesOf parts).findSome? Value.changeable?)
  | .node .set parts => do
    keepAll parts
    return .other (some "set")
  | .node .dictionary parts => do
    keepKeys parts
    return .other (some "dict")
  | .node .applied [.leaf { word := .name "set", .. }, .node .call []] => .ok (.other (some "set"))
  | .node .sum [left, op, right] =>
    match signedNumber? left, right with
    | some .real, .leaf { word := .number .imaginary, .. } =>
      if op.isMark "+" || op.isMark "-" then .ok .imaginary else .error .other
    | _, _ => .error .other
  | .node .signed parts =>
    match signedNumber? (.node .signed parts) with
    | some v => .ok v
    | none => .error .other
  | .node _ _ => .error .other

/-- The values of trees. -/
def valuesOf : List Tree → Except Refusal (List Value)
  | [] => .ok []
  | t :: ts => do return (← valueOf t) :: (← valuesOf ts)

/-- The members of a set, one after another. -/
def keepAll : List Tree → Except Refusal Unit
  | [] => .ok ()
  | t :: ts => do
    (← valueOf t).keep
    keepAll ts

/-- The pairs of a dictionary, one after another. -/
def keepKeys : List Tree → Except Refusal Unit
  | [] => .ok ()
  | .node .pair [key, value] :: ts => do
    let key ← valueOf key
    let _ ← valueOf value
    key.keep
    keepKeys ts
  | _ :: _ => .error .unpacked

end

/-- The value of text that is a literal, with blanks before it or not. -/
def read (text : List Char) : Except Refusal Value :=
  if text.contains '\x00' then .error .nullCharacter
  else
    match treeOf (text.dropWhile fun c => c == ' ' || c == '\t') with
    | .ok tree => if heightLimit < tree.height then .error .tooHigh else valueOf tree
    | .error fault => .error (.unreadable fault)

end ClassChain.Literal

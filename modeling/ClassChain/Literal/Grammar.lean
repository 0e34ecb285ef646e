import ClassChain.Literal.Formatted
import ClassChain.Literal.Rules

/-!
# The grammar of expressions

The rules by which the words of an expression follow each other, the loosest first, and beside them the mistakes that are known by
sight, each with its hint. Square brackets are no part of it: text between brackets holds none.
-/

namespace ClassChain.Literal

/-- The names of the rules. -/
inductive Rule where
  | whole
  | expressions
  | expression
  | plainExpression
  | yielding
  | starExpressions
  | starExpression
  | starItems
  | starItem
  | assignment
  | named
  | disjunction
  | conjunction
  | inversion
  | comparison
  | bitOr
  | bitXor
  | bitAnd
  | shift
  | sum
  | term
  | factor
  | power
  | awaited
  | primary
  | atom
  | tuple
  | group
  | generator
  | dictionary
  | set
  | dictComprehension
  | setComprehension
  | pair
  | pairs
  | pairItem
  | texts
  | clauses
  | clause
  | targets
  | target
  | starlessTarget
  | targetAtom
  | targetBase
  | arguments
  | argumentList
  | namedArguments
  | namedOrStarred
  | namedOrUnpacked
  | starredArgument
  | function
  | parameters
  | slashPlain
  | slashDefault
  | starParameters
  | unpackedParameter
  | plainParameter
  | defaultParameter
  | anyParameter
  | default
  | mistakenExpression
  | mistakenCall
  | mistakenNamed
  | mistakenGroup
  | mistakenComprehension
  | mistakenDictComprehension
  | mistakenPairs
  | mistakenPair
  | mistakenClause
  | mistakenArguments
  | mistakenArgument
  | mistakenParameters
  | mistakenStar
  | mistakenUnpacking
  deriving DecidableEq, Hashable, Repr

/-! ## Words -/

/-- The words that are no names. -/
def reserved : List String :=
  ["False", "None", "True", "and", "as", "assert", "async", "await", "break", "class", "continue", "def", "del", "elif", "else",
    "except", "finally", "for", "from", "global", "if", "import", "in", "is", "lambda", "nonlocal", "not", "or", "pass", "raise",
    "return", "try", "while", "with", "yield"]

/-- A certain reserved word or symbol. -/
def Word.isMark (s : String) : Word → Bool
  | .name n => n == s
  | .symbol n => n == s
  | _ => false

/-- A name. -/
def Word.isName : Word → Bool
  | .name n => !reserved.contains n
  | _ => false

/-- A name that is a reserved word elsewhere. -/
def Word.isHalfReserved : Word → Bool
  | .name n => ["_", "case", "match"].contains n
  | _ => false

/-- A number. -/
def Word.isNumber : Word → Bool
  | .number _ => true
  | _ => false

/-- A quoted text. -/
def Word.text? : Word → Option Quotation
  | .text q => some q
  | _ => none

/-- A quoted text. -/
def Word.isText (w : Word) : Bool := w.text?.isSome

/-! ## What hints say of trees -/

/-- A quoted text with expressions in it. -/
def Tree.isFormatted : Tree → Bool
  | .leaf { word := .text q, .. } => q.isFormatted
  | _ => false

/-- What an expression is called in hints. -/
def Tree.label : Tree → String
  | .leaf t =>
    match t.word with
    | .name n => if ["True", "False", "None"].contains n then n else "name"
    | .symbol "..." => "ellipsis"
    | .text q => if q.isFormatted then "f-string expression" else "literal"
    | _ => "literal"
  | .node kind parts =>
    match kind with
    | .texts => if parts.any Tree.isFormatted then "f-string expression" else "literal"
    | .applied =>
      match parts.getLast? with
      | some (.node .attribute _) => "attribute"
      | _ => "function call"
    | .attribute => "attribute"
    | .call | .argument => "function call"
    | .unpacked | .starred => "starred"
    | .tuple => "tuple"
    | .set => "set display"
    | .dictionary | .pair => "dict literal"
    | .sum | .signed | .operation => "expression"
    | .comparison => "comparison"
    | .conditional => "conditional expression"
    | .function => "lambda"
    | .assignment => "named expression"
    | .yielded => "yield expression"
    | .awaited => "await expression"
    | .generator => "generator expression"
    | .setComprehension => "set comprehension"
    | .dictComprehension => "dict comprehension"

/-- A leaf that is a certain reserved word or symbol. -/
def Tree.isMark (s : String) : Tree → Bool
  | .leaf t => t.word.isMark s
  | .node _ _ => false

mutual

/-- The part of an expression that no value can be assigned to. -/
def Tree.unassignable? : Tree → Option String
  | .leaf t => if t.word.isName then none else some (Tree.label (.leaf t))
  | .node .tuple parts => unassignableAmong? parts
  | .node .starred parts => unassignableAmong? parts
  | .node .comparison (left :: op :: _) => if op.isMark "in" then left.unassignable? else none
  | .node .applied parts => if Tree.label (.node .applied parts) = "attribute" then none else some "function call"
  | .node kind parts => some (Tree.label (.node kind parts))

/-- The first part of several expressions that no value can be assigned to. -/
def unassignableAmong? : List Tree → Option String
  | [] => none
  | t :: ts => t.unassignable?.orElse fun _ => unassignableAmong? ts

end

/-- A call without brackets of something that was once called so. -/
def bareCall? : List Tree → Option String
  | .leaf t :: _ => ["print", "exec"].find? fun name => t.word.isMark name
  | _ => none

/-- A given value of a call that is given by name, or is an unpacked dictionary. -/
def Tree.isNamedArgument : Tree → Bool
  | .node .argument _ => true
  | .node .unpacked _ => true
  | _ => false

/-- An unpacked dictionary. -/
def Tree.isUnpacked : Tree → Bool
  | .node .unpacked _ => true
  | _ => false

/-! ## Patterns -/

/-- A reserved word or symbol that stays in the tree. -/
def kept (s : String) : Pattern Rule := .word (Word.isMark s)

/-- A reserved word or symbol. -/
def mark (s : String) : Pattern Rule := .bare (kept s)

/-- A name. -/
def name : Pattern Rule := .word Word.isName

/-- It or nothing. -/
def optional (p : Pattern Rule) : Pattern Rule := .first [p, .all []]

/-- Once or more. -/
def several (p : Pattern Rule) : Pattern Rule := .all [p, .many p]

/-- Once or more, with commas between. -/
def listed (p : Pattern Rule) : Pattern Rule := .all [p, .many (.all [mark ",", p])]

/-- Operands with operators between, which stay in the tree. -/
def chained (kind : Kind) (operand : Rule) (operators : List String) : Pattern Rule :=
  .joined kind (.all [.rule operand, .many (.all [.first (operators.map kept), .rule operand])])

/-- A mistake with a hint. -/
def hinted (hint : String) (ps : List (Pattern Rule)) (site : Site := .start) : Pattern Rule :=
  .mistake site (fun _ _ => some (.misread hint)) (.all ps)

/-- A mistake that is one only sometimes. -/
def judged (hint? : List Tree → Token → Option String) (ps : List (Pattern Rule)) (site : Site := .start) : Pattern Rule :=
  .mistake site (fun trees last => (hint? trees last).map .misread) (.all ps)

/-- An expression, or several with commas between, which are a tuple. -/
def tupled (item : Rule) : Pattern Rule :=
  .first [.made .tuple (.all [.rule item, several (.all [mark ",", .rule item]), optional (mark ",")]),
    .made .tuple (.all [.rule item, mark ","]), .rule item]

/-- What follows the word for a source of values. -/
def clauseBody : Pattern Rule :=
  .all [mark "for", .rule .targets, mark "in",
    .settled (.all [.rule .disjunction, .many (.all [mark "if", .rule .disjunction])])]

/-- An item of a generator. -/
def generated : Pattern Rule := .first [.rule .assignment, .all [.rule .expression, .absent (mark ":=")]]

/-- A parameter that a pattern follows, or that is the last. -/
def parameter (rest : Pattern Rule) : Pattern Rule :=
  .first [.all [name, rest, mark ","], .all [name, rest, .ahead (mark ":")]]

/-- The hint at an equals sign that should be another. -/
def equalsHint : String := "invalid syntax. Maybe you meant '==' or ':=' instead of '='?"

/-- The hint at a generator among other values. -/
def generatorHint : String := "Generator expression must be parenthesized"

/-- The hint at several items without brackets before the sources of their values. -/
def targetHint : String := "did you forget parentheses around the comprehension target?"

/-- The hint at parameters after the last possible. -/
def lastParameterHint : String := "arguments cannot follow var-keyword argument"

/-- The hint at values that follow named ones. -/
def orderHint (given : List Tree) : String :=
  if given.any Tree.isUnpacked then "positional argument follows keyword argument unpacking"
  else "positional argument follows keyword argument"

/-- What is wrong with a number that is read. -/
def numberFault? : List Tree → Option Fault
  | [.leaf { word := .number (.whole digits), .. }] => if 4300 < digits then some (.tooManyDigits digits) else none
  | _ => none

/-- What is wrong with quoted texts of a source that are read; `fault?` tells what is wrong with an expression in one. -/
def textsFault? (s : Source) (fault? : Source → Option Fault) (trees : List Tree) : Option Fault :=
  joinedFault? s fault? none (trees.filterMap fun
    | .leaf t => t.word.text?.map (·, t)
    | _ => none)

/-! ## Rules -/

/-- A key of a dictionary with a starred value, or with none. -/
def mistakenValue : Pattern Rule := .first [
  .all [.rule .expression, mark ":",
    hinted "cannot use a starred expression in a dictionary value" [mark "*", .rule .bitOr]],
  .all [.rule .expression,
    hinted "expression expected after dictionary key and ':'" [mark ":", .ahead (.first [mark "\x7d", mark ","])]]]

/-- The mistakes that are known by sight. -/
def mistakes : Rule → Pattern Rule
  | .mistakenExpression => .first [
      .all [.absent (.first [.all [name, .word Word.isText], .word Word.isHalfReserved]),
        judged (fun trees last =>
          if (bareCall? trees).isSome ∨ last.depth = 0 then none else some "invalid syntax. Perhaps you forgot a comma?")
          [.rule .disjunction, .rule .plainExpression]],
      hinted "expected 'else' after 'if' expression"
        [.rule .disjunction, mark "if", .rule .disjunction, .absent (.first [mark "else", mark ":"])]]
  | .mistakenCall =>
      judged (fun trees _ => (bareCall? trees).map fun name =>
          "Missing parentheses in call to '" ++ name ++ "'. Did you mean " ++ name ++ "(...)?")
        [name, .absent (mark "("), .rule .starExpressions]
  | .mistakenNamed => .first [
      judged (fun trees _ => trees.head?.map fun t => "cannot use assignment expressions with " ++ t.label)
        [.rule .expression, mark ":=", .rule .expression],
      hinted equalsHint [name, mark "=", .rule .bitOr, .absent (.first [mark "=", mark ":="])],
      .all [.absent (.first [.rule .tuple, .rule .generator, mark "True", mark "None", mark "False"]),
        judged (fun trees _ => trees.head?.map fun t =>
            "cannot assign to " ++ t.label ++ " here. Maybe you meant '==' instead of '='?")
          [.rule .bitOr, mark "=", .rule .bitOr, .absent (.first [mark "=", mark ":="])]]]
  | .mistakenGroup => .first [
      .all [mark "(", hinted "cannot use starred expression here" [.rule .starredArgument, mark ")"]],
      .all [mark "(", hinted "cannot use double starred expression here" [mark "**", .rule .expression, mark ")"]]]
  | .mistakenComprehension => .first [
      .all [.first [mark "(", mark "\x7b"],
        hinted "iterable unpacking cannot be used in comprehension" [.rule .starredArgument, .rule .clauses]],
      .all [mark "\x7b", hinted targetHint [.rule .starItem, mark ",", .rule .starItems, .rule .clauses]],
      .all [mark "\x7b", hinted targetHint [.rule .starItem, mark ",", .rule .clauses]]]
  | .mistakenDictComprehension =>
      .all [mark "\x7b",
        hinted "dict unpacking cannot be used in dict comprehension" [mark "**", .rule .bitOr, .rule .clauses, mark "\x7d"]]
  | .mistakenPairs => .first [
      .all [listed (.rule .pairItem), mark ",", .rule .mistakenPair], mistakenValue]
  | .mistakenPair => .first [
      hinted "':' expected after dictionary key" [.rule .expression, .absent (mark ":")] .last, mistakenValue]
  | .mistakenClause =>
      .all [optional (mark "async"), mark "for",
        judged (fun trees _ => (unassignableAmong? trees).map ("cannot assign to " ++ ·)) [.rule .starExpressions]]
  | .mistakenArguments => .first [
      hinted "iterable argument unpacking follows keyword argument unpacking" [.rule .argumentList, mark ",", mark "*"],
      hinted generatorHint [.rule .expression, .rule .clauses, mark ",",
        optional (.first [.rule .argumentList, .all [.rule .expression, .rule .clauses]])],
      hinted equalsHint [name, mark "=", .rule .expression, .rule .clauses],
      judged (fun trees _ => if (trees.filter (!·.isNamedArgument)).length ≤ 1 then none else some generatorHint)
        [.rule .argumentList, .bare (.rule .clauses)],
      .all [.rule .argumentList, mark ",", hinted generatorHint [.rule .expression, .rule .clauses]],
      judged (fun trees _ => some (orderHint trees)) [.rule .argumentList, mark ",", .bare (.rule .argumentList)] .reached]
  | .mistakenArgument => .first [
      judged (fun trees _ => trees.head?.map fun t => "cannot assign to " ++ t.label)
        [.first [kept "True", kept "False", kept "None"], mark "="],
      hinted equalsHint [name, mark "=", .rule .expression, .rule .clauses],
      .all [.absent (.all [name, mark "="]),
        hinted "expression cannot contain assignment, perhaps you meant \"==\"?" [.rule .expression, mark "="]]]
  | .mistakenParameters => .first [
      .all [.many (.rule .plainParameter), .first [.rule .slashDefault, several (.rule .defaultParameter)],
        hinted "non-default argument follows default argument" [.rule .plainParameter]],
      .all [.many (.rule .plainParameter),
        hinted "Lambda expression parameters cannot be parenthesized" [mark "(", listed name, optional (mark ","), mark ")"]],
      hinted "at least one argument must precede /" [mark "/", mark ","],
      .all [.first [.rule .slashPlain, .rule .slashDefault], .many (.rule .anyParameter),
        hinted "/ may appear only once" [mark "/"]],
      .all [optional (.first [.rule .slashPlain, .rule .slashDefault]), .many (.rule .anyParameter), mark "*",
        .first [mark ",", .rule .plainParameter], .many (.rule .anyParameter), hinted "/ must be ahead of *" [mark "/"]],
      .all [several (.rule .anyParameter), mark "/", hinted "expected comma between / and *" [mark "*"]]]
  | .mistakenStar => .first [
      hinted "named arguments must follow bare *"
        [mark "*", .first [mark ":", .all [mark ",", .first [mark ":", mark "**"]]]] .reached,
      .all [mark "*", name, hinted "var-positional argument cannot have default value" [mark "="]],
      .all [mark "*", .first [.rule .plainParameter, mark ","], .many (.rule .anyParameter),
        hinted "* argument may appear only once" [mark "*", .first [.rule .plainParameter, mark ","]]]]
  | .mistakenUnpacking => .first [
      .all [mark "**", name, hinted "var-keyword argument cannot have default value" [mark "="]],
      .all [mark "**", name, mark ",", hinted lastParameterHint [.first [name, mark "*", mark "**", mark "/"]]]]
  | _ => .first []

/-- The rules on values in brackets and on the values of calls. -/
def bracketed : Rule → Pattern Rule
  | .tuple =>
      .made .tuple (.all [mark "(", optional (.all [.rule .starItem, mark ",", optional (.rule .starItems)]), mark ")"])
  | .group => .first [.all [mark "(", .first [.rule .yielding, .rule .named], mark ")"], .late (.rule .mistakenGroup)]
  | .generator => .first [
      .made .generator (.all [mark "(", generated, .rule .clauses, mark ")"]), .late (.rule .mistakenComprehension)]
  | .dictionary => .first [
      .made .dictionary (.all [mark "\x7b", optional (.rule .pairs), mark "\x7d"]),
      .all [mark "\x7b", .rule .mistakenPairs, mark "\x7d"]]
  | .set => .made .set (.all [mark "\x7b", .rule .starItems, mark "\x7d"])
  | .dictComprehension => .first [
      .made .dictComprehension (.all [mark "\x7b", .rule .pair, .rule .clauses, mark "\x7d"]),
      .late (.rule .mistakenDictComprehension)]
  | .setComprehension => .first [
      .made .setComprehension (.all [mark "\x7b", .rule .named, .rule .clauses, mark "\x7d"]),
      .late (.rule .mistakenComprehension)]
  | .pairs => .all [listed (.rule .pairItem), optional (mark ",")]
  | .pairItem => .first [.made .unpacked (.all [mark "**", .rule .bitOr]), .rule .pair]
  | .pair => .made .pair (.all [.rule .expression, mark ":", .rule .expression])
  | .clauses => several (.rule .clause)
  | .clause => .first [.all [mark "async", clauseBody], clauseBody, .late (.rule .mistakenClause)]
  | .targets => .first [.all [.rule .target, .absent (mark ",")],
      .all [.rule .target, .many (.all [mark ",", .rule .target]), optional (mark ",")]]
  | .target => .first [.all [mark "*", .absent (mark "*"), .rule .target], .rule .starlessTarget]
  | .starlessTarget => .first [
      .all [.rule .targetBase, mark ".", name, .absent (.first [mark "(", mark "."])], .rule .targetAtom]
  | .targetAtom => .first [name, .all [mark "(", .rule .starlessTarget, mark ")"],
      .all [mark "(", optional (.first [.all [.rule .target, several (.all [mark ",", .rule .target]), optional (mark ",")],
        .all [.rule .target, mark ","]]), mark ")"]]
  | .targetBase =>
      let followed := .ahead (.first [mark "(", mark "."])
      .all [.rule .atom, followed, .many (.all [.first [.all [mark ".", name], .rule .generator,
        .all [mark "(", optional (.rule .arguments), mark ")"]], followed])]
  | .arguments => .first [.all [.rule .argumentList, optional (mark ","), .ahead (mark ")")], .late (.rule .mistakenArguments)]
  | .argumentList => .first [
      .all [listed (.first [.rule .starredArgument, .all [generated, .absent (mark "=")]]),
        optional (.all [mark ",", .rule .namedArguments])],
      .rule .namedArguments]
  | .namedArguments => .first [
      .all [listed (.rule .namedOrStarred), mark ",", listed (.rule .namedOrUnpacked)],
      listed (.rule .namedOrStarred), listed (.rule .namedOrUnpacked)]
  | .namedOrStarred => .first [
      .late (.rule .mistakenArgument), .made .argument (.all [name, mark "=", .rule .expression]), .rule .starredArgument]
  | .namedOrUnpacked => .first [
      .late (.rule .mistakenArgument), .made .argument (.all [name, mark "=", .rule .expression]),
      .made .unpacked (.all [mark "**", .rule .expression])]
  | .starredArgument => .made .starred (.all [mark "*", .rule .expression])
  | _ => .first []

/-- The rules on parameters of functions. -/
def parametric : Rule → Pattern Rule
  | .function => .made .function (.all [mark "lambda", .bare (optional (.rule .parameters)), mark ":", .rule .expression])
  | .parameters => .first [
      .late (.rule .mistakenParameters),
      .all [.rule .slashPlain, .many (.rule .plainParameter), .many (.rule .defaultParameter), optional (.rule .starParameters)],
      .all [.rule .slashDefault, .many (.rule .defaultParameter), optional (.rule .starParameters)],
      .all [several (.rule .plainParameter), .many (.rule .defaultParameter), optional (.rule .starParameters)],
      .all [several (.rule .defaultParameter), optional (.rule .starParameters)],
      .rule .starParameters]
  | .slashPlain => .first [
      .all [several (.rule .plainParameter), mark "/", mark ","],
      .all [several (.rule .plainParameter), mark "/", .ahead (mark ":")]]
  | .slashDefault => .first [
      .all [.many (.rule .plainParameter), several (.rule .defaultParameter), mark "/", mark ","],
      .all [.many (.rule .plainParameter), several (.rule .defaultParameter), mark "/", .ahead (mark ":")]]
  | .starParameters => .first [
      .late (.rule .mistakenStar),
      .all [mark "*", .rule .plainParameter, .many (.rule .anyParameter), optional (.rule .unpackedParameter)],
      .all [mark "*", mark ",", several (.rule .anyParameter), optional (.rule .unpackedParameter)],
      .rule .unpackedParameter]
  | .unpackedParameter => .first [.late (.rule .mistakenUnpacking), .all [mark "**", .rule .plainParameter]]
  | .plainParameter => parameter (.all [])
  | .defaultParameter => parameter (.rule .default)
  | .anyParameter => parameter (optional (.rule .default))
  | .default => .first [
      .all [mark "=", .rule .expression],
      .late (hinted "expected default value expression" [mark "=", .ahead (.first [mark ")", mark ","])])]
  | _ => .first []

/-- The rules on operators, the loosest first. -/
def operative : Rule → Pattern Rule
  | .disjunction => chained .operation .conjunction ["or"]
  | .conjunction => chained .operation .inversion ["and"]
  | .inversion => .first [.made .operation (.all [mark "not", .rule .inversion]), .rule .comparison]
  | .comparison => .joined .comparison (.all [.rule .bitOr, .many (.all [
      .first (["==", "!=", "<=", "<", ">=", ">"].map kept ++ [.all [kept "not", mark "in"], kept "in",
        .all [kept "is", mark "not"], kept "is"]), .rule .bitOr])])
  | .bitOr => chained .operation .bitXor ["|"]
  | .bitXor => chained .operation .bitAnd ["^"]
  | .bitAnd => chained .operation .shift ["&"]
  | .shift => chained .operation .sum ["<<", ">>"]
  | .sum => chained .sum .term ["+", "-"]
  | .term => chained .operation .factor ["*", "/", "//", "%", "@"]
  | .factor => .first [
      .made .signed (.all [kept "+", .rule .factor]), .made .signed (.all [kept "-", .rule .factor]),
      .made .operation (.all [kept "~", .rule .factor]), .rule .power]
  | .power => .first [.made .operation (.all [.rule .awaited, mark "**", .rule .factor]), .rule .awaited]
  | .awaited => .first [.made .awaited (.all [mark "await", .rule .primary]), .rule .primary]
  | .primary => .joined .applied (.all [.rule .atom, .many (.first [
      .made .attribute (.all [mark ".", name]), .made .call (.rule .generator),
      .made .call (.all [mark "(", optional (.rule .arguments), mark ")"])])])
  | .atom => .first [name, kept "True", kept "False", kept "None", .rule .texts, .checked numberFault? (.word Word.isNumber),
      .all [.ahead (mark "("), .first [.rule .tuple, .rule .group, .rule .generator]],
      .all [.ahead (mark "\x7b"),
        .first [.rule .dictionary, .rule .set, .rule .dictComprehension, .rule .setComprehension]],
      kept "..."]
  | _ => .first []

/-- The rules on whole expressions. -/
def general : Rule → Pattern Rule
  | .whole => .all [.rule .expressions, .many (.bare (.word (· == .lineEnd))), .bare (.word (· == .finish))]
  | .expressions => tupled .expression
  | .expression => .first [
      .late (.rule .mistakenExpression), .late (.rule .mistakenCall),
      .made .conditional (.all [.rule .disjunction, mark "if", .rule .disjunction, mark "else", .rule .expression]),
      .rule .disjunction, .rule .function]
  | .plainExpression => .plain (.first [
      .made .conditional (.all [.rule .disjunction, mark "if", .rule .disjunction, mark "else", .rule .expression]),
      .rule .disjunction, .rule .function])
  | .yielding => .made .yielded (.first [
      .all [mark "yield", mark "from", .rule .expression], .all [mark "yield", optional (.rule .starExpressions)]])
  | .starExpressions => tupled .starExpression
  | .starExpression => .first [.made .starred (.all [mark "*", .rule .bitOr]), .rule .expression]
  | .starItems => .all [listed (.rule .starItem), optional (mark ",")]
  | .starItem => .first [.made .starred (.all [mark "*", .rule .bitOr]), .rule .named]
  | .assignment => .made .assignment (.all [name, mark ":=", .rule .expression])
  | .named => .first [
      .rule .assignment, .late (.rule .mistakenNamed), .all [.rule .expression, .absent (mark ":=")]]
  | _ => .first []

/-- Quoted texts next to each other. -/
def texts (fault? : List Tree → Option Fault) : Rule → Pattern Rule
  | .texts => .joined .texts (.checked fault? (several (.word Word.isText)))
  | _ => .first []

/-- The grammar of expressions; each rule stands in one of the tables. `fault?` tells what is wrong with quoted texts. -/
def grammar (fault? : List Tree → Option Fault) : Grammar Rule where
  pattern r := .first [general r, operative r, bracketed r, texts fault? r, parametric r, mistakes r]
  isShared r :=
    [.expression, .starExpression, .disjunction, .conjunction, .inversion, .bitOr, .bitXor, .bitAnd, .shift, .sum, .term, .factor,
      .awaited, .primary, .texts, .arguments, .target, .starlessTarget, .targetBase, .mistakenNamed].contains r

end ClassChain.Literal

import ClassChain.Markup.Call
import ClassChain.Markup.Style

/-!
# Tags in markup

Text to be shown may hold tags in brackets. What opens with a small letter, a hash, a slash or an at sign after a bracket, and
goes to a closing bracket with no other opening one between, is a tag, unless an odd number of backslashes stands before it. A
tag with a slash closes the latest open one of its name, or with nothing after the slash the latest of all; to close what is not
open is a fault, and so is a closed tag whose call cannot be read. A tag that stays open does no harm.

What is shown of a text is told together with the runs that have a style.

`render_pieces` says that reading text into plain characters and tags loses nothing.
-/

namespace ClassChain.Markup

/-- A character that may open a tag. -/
def isTagStart (c : Char) : Bool := ('a' ≤ c && c ≤ 'z') || c == '#' || c == '/' || c == '@'

/-- What stands between the brackets of the tag that text opens with, and what follows the tag. -/
def tag? : List Char → Option (List Char × List Char)
  | '[' :: c :: cs =>
    if isTagStart c then
      match cs.dropWhile (fun d => d != ']' && d != '[') with
      | ']' :: rest => some (c :: cs.takeWhile (fun d => d != ']' && d != '['), rest)
      | _ => none
    else none
  | _ => none

theorem append_of_tag? {cs body rest : List Char} (h : tag? cs = some (body, rest)) : '[' :: (body ++ ']' :: rest) = cs := by
  simp only [tag?] at h
  split at h
  · split at h
    · split at h
      · rename_i hdrop
        simp only [Option.some.injEq, Prod.mk.injEq] at h
        obtain ⟨rfl, rfl⟩ := h
        rw [List.cons_append, ← hdrop, List.takeWhile_append_dropWhile]
      · simp at h
    · simp at h
  · simp at h

/-- A piece of a text with markup. -/
inductive Piece where
  /-- A character outside all tags. -/
  | plain (c : Char)
  /-- A tag with the number of backslashes before it. -/
  | tag (slashes : Nat) (body : List Char)
  deriving DecidableEq, Repr

/-- A piece as it is written. -/
def Piece.text : Piece → List Char
  | .plain c => [c]
  | .tag slashes body => List.replicate slashes '\\' ++ '[' :: (body ++ [']'])

/-- A backslash. -/
def isSlash (c : Char) : Bool := c == '\\'

/-- The pieces of a text. -/
def pieces (cs : List Char) : List Piece :=
  match cs with
  | [] => []
  | c :: rest =>
    match _h : tag? ((c :: rest).dropWhile isSlash) with
    | some (body, after) => .tag ((c :: rest).takeWhile isSlash).length body :: pieces after
    | none => .plain c :: pieces rest
termination_by cs.length
decreasing_by
  · have hsuffix := (List.dropWhile_suffix (p := isSlash) (l := c :: rest)).length_le
    rw [← append_of_tag? _h] at hsuffix
    simp only [List.length_cons, List.length_append] at hsuffix ⊢
    omega
  · simp

theorem takeWhile_isSlash (cs : List Char) : cs.takeWhile isSlash = List.replicate (cs.takeWhile isSlash).length '\\' := by
  refine List.eq_replicate_iff.mpr ⟨rfl, fun c hc => ?_⟩
  simpa [isSlash] using (List.all_takeWhile (p := isSlash) (l := cs) |> List.all_eq_true.mp) c hc

/-- The pieces of a text are the text. -/
theorem render_pieces (cs : List Char) : (pieces cs).flatMap Piece.text = cs := by
  fun_induction pieces cs with
  | case1 => rfl
  | case2 c rest body after h ih =>
    rw [List.flatMap_cons, ih, Piece.text, ← takeWhile_isSlash]
    simp only [List.append_assoc, List.cons_append, List.nil_append]
    rw [append_of_tag? h, List.takeWhile_append_dropWhile]
  | case3 c rest h ih => rw [List.flatMap_cons, ih]; rfl

/-- What is wrong with a tag. -/
inductive Fault where
  /-- Nothing of the name of a closing tag at a position is open. -/
  | unmatched (body : List Char) (position : Nat)
  /-- Nothing at all is open for a closing tag at a position. -/
  | nothingOpen (position : Nat)
  /-- The call of a closed tag cannot be read. -/
  | call (fault : CallFault)
  /-- An amount in the name of a style is no number. -/
  | amount (fault : AmountFault)
  deriving DecidableEq, Repr

/-- A fault in words. -/
def Fault.message : Fault → String
  | .unmatched body position =>
    "closing tag '[" ++ String.ofList body ++ "]' at position " ++ toString position ++ " doesn't match any open tag"
  | .nothingOpen position => "closing tag '[/]' at position " ++ toString position ++ " has nothing to close"
  | .call fault => fault.message
  | .amount fault => fault.message

/-- A tag that opens something: the normal form of its name, what follows the equals sign after it, and how much text is shown
before it. -/
structure Tag where
  name : String
  value? : Option (List Char)
  start : Nat
  deriving DecidableEq, Repr

/-- A run of shown text with a style, from one place to before another. -/
structure Span where
  start : Nat
  stop : Nat
  style : List Char
  deriving DecidableEq, Repr

/-- What is shown of a text, with the styles of its runs; of two runs that start together the longer comes first. -/
structure Shown where
  text : List Char
  spans : List Span
  deriving DecidableEq, Repr

/-- What stands before an equals sign in a tag, and what follows it. -/
def partsOf (body : List Char) : List Char × Option (List Char) :=
  match body.dropWhile (· != '=') with
  | [] => (body, none)
  | _ :: value => (body.takeWhile (· != '='), some value)

/-- The normal form of a name in a tag. -/
def tagName (name : List Char) : Except Fault String := (normalName name).mapError .amount

/-- The style that a tag names: its name and its value together. -/
def Tag.style (t : Tag) : List Char :=
  t.name.toList ++ match t.value? with
    | some value => ' ' :: value
    | none => []

/-- Closes a tag at a place of the shown text: the run with its style, or none for a call. -/
def Tag.close (t : Tag) (stop : Nat) : Except Fault (List Span) :=
  if t.name.toList.head? = some '@' then
    match callFault? (t.value?.getD []) with
    | some fault => .error (.call fault)
    | none => .ok []
  else .ok [⟨t.start, stop, t.style⟩]

/-- What has been read of a text: what is shown of it, the latest character first, the tags that are open, and the runs whose tags
are closed, the latest first. -/
structure Reading where
  shown : List Char := []
  opened : List Tag := []
  closed : List Span := []

/-- Characters that are never shown. -/
def isUnshown (c : Char) : Bool := [7, 8, 11, 12, 13].contains c.toNat

/-- Shows more text. -/
def Reading.show (r : Reading) (cs : List Char) : Reading := { r with shown := (cs.filter (!isUnshown ·)).reverse ++ r.shown }

/-- Opens or closes what a tag at a position says. -/
def Reading.take (r : Reading) (position : Nat) (body : List Char) : Except Fault Reading :=
  let stop := r.shown.length
  match partsOf body with
  | ('/' :: name, _) =>
    if (Text.trimBlanks name).isEmpty then
      match r.opened with
      | [] => .error (.nothingOpen position)
      | t :: below => do return { r with opened := below, closed := (← t.close stop) ++ r.closed }
    else do
      let name ← tagName name
      match r.opened.find? (·.name == name) with
      | some t => return { r with opened := r.opened.eraseP (·.name == name), closed := (← t.close stop) ++ r.closed }
      | none => throw (.unmatched body position)
  | (name, value?) => do return { r with opened := ⟨← tagName name, value?, stop⟩ :: r.opened }

/-- What is shown of a run of backslashes before a tag: every other one. -/
def halved (slashes : Nat) : List Char := List.replicate (slashes / 2) '\\'

/-- Reads pieces that start at a position. A backslash before a bracket that opens no tag is not shown. -/
def Reading.readFrom (r : Reading) (position : Nat) : List Piece → Except Fault Reading
  | [] => .ok r
  | .plain c :: rest =>
    (if c = '\\' ∧ rest.head? = some (.plain '[') then r else r.show [c]).readFrom (position + 1) rest
  | .tag slashes body :: rest =>
    let next := position + slashes + body.length + 2
    let r := r.show (halved slashes)
    if slashes % 2 = 1 then (r.show ('[' :: (body ++ [']']))).readFrom next rest
    else
      match r.take (position + slashes) body with
      | .ok r => r.readFrom next rest
      | .error fault => .error fault

/-- What is shown in the end: the tags that are still open reach to the end. -/
def Reading.finish (r : Reading) : Shown :=
  let stop := r.shown.length
  let spans := (r.opened.map fun t => ⟨t.start, stop, t.style⟩).reverse ++ r.closed
  ⟨r.shown.reverse, spans.mergeSort fun a b => a.start ≤ b.start⟩

/-- What is shown of a text, or what is wrong with it. -/
def read (cs : List Char) : Except Fault Shown := do return (← ({} : Reading).readFrom 0 (pieces cs)).finish

/-- What a piece looks like when no style can be shown: a tag is left out, and an escaped one shows its brackets. -/
def Piece.bare : Piece → List Char
  | .plain c => [c]
  | .tag slashes body => List.replicate (slashes / 2) '\\' ++ if slashes % 2 = 1 then '[' :: (body ++ [']']) else []

/-- The text without its styles. -/
def unstyled (text : String) : String := String.ofList ((pieces text.toList).flatMap Piece.bare)

/-- The text with every tag made plain: its backslashes doubled and one more before it. -/
def escapeTags (cs : List Char) : List Char :=
  (pieces cs).flatMap fun
    | .plain c => [c]
    | .tag slashes body => Piece.text (.tag (2 * slashes + 1) body)

/-- The text ends in a backslash with no other before it. -/
def endsInOneSlash (cs : List Char) : Bool :=
  match cs.reverse with
  | ['\\'] => true
  | '\\' :: c :: _ => c != '\\'
  | _ => false

/-- The text as it has to be written to be shown as it is, also before a tag. -/
def escape (text : String) : String :=
  let escaped := escapeTags text.toList
  String.ofList (if endsInOneSlash escaped then escaped ++ ['\\'] else escaped)

end ClassChain.Markup

import ClassChain.Literal.Fault

/-!
# Quoted texts

A text stands between quotes, single ones or three in a row, with letters in front that say how it is read.

`append_of_closing?` says that reading a quoted text loses nothing.
-/

namespace ClassChain.Literal

/-- A quoted text as it is written, with what its letters in front say. -/
structure Quotation where
  isBytes : Bool
  isRaw : Bool
  isFormatted : Bool
  content : List Char
  deriving DecidableEq, Repr

/-- The letters in front of a quoted text, the quote, and what follows it; `none` if no quoted text opens here. -/
def opening (isBytes isRaw isUnicode isFormatted : Bool) : List Char → Option (Quotation × Char × List Char)
  | [] => none
  | c :: cs =>
    let small := c.toLower
    if c = '"' ∨ c = '\'' then some (⟨isBytes, isRaw, isFormatted, []⟩, c, cs)
    else if small = 'b' ∧ ¬ (isBytes ∨ isUnicode ∨ isFormatted) then opening true isRaw isUnicode isFormatted cs
    else if small = 'u' ∧ ¬ (isBytes ∨ isUnicode ∨ isRaw ∨ isFormatted) then opening isBytes isRaw true isFormatted cs
    else if small = 'r' ∧ ¬ (isRaw ∨ isUnicode) then opening isBytes true isUnicode isFormatted cs
    else if small = 'f' ∧ ¬ (isFormatted ∨ isBytes ∨ isUnicode) then opening isBytes isRaw isUnicode true cs
    else none

/-- What stands before the closing quotes, and what follows them; `none` if they are missing. What follows a backslash closes
nothing. A text in single quotes ends before the end of its line. -/
def closing? (quote : Char) (isBlock : Bool) : List Char → Option (List Char × List Char)
  | [] => none
  | '\\' :: c :: cs => (closing? quote isBlock cs).map fun (content, rest) => ('\\' :: c :: content, rest)
  | c :: cs =>
    if c = quote ∧ ¬ isBlock then some ([], cs)
    else if c = quote ∧ [quote, quote].isPrefixOf cs then some ([], cs.drop 2)
    else if c = '\n' ∧ ¬ isBlock then none
    else (closing? quote isBlock cs).map fun (content, rest) => (c :: content, rest)

/-- A quoted text, its closing quote and what follows it are the text. -/
theorem append_of_closing? {quote : Char} {cs content rest : List Char} (h : closing? quote false cs = some (content, rest)) :
    content ++ quote :: rest = cs := by
  generalize hb : false = isBlock at h
  fun_induction closing? quote isBlock cs generalizing content with
  | case1 => cases h
  | case2 c cs ih =>
    simp only [Option.map_eq_some_iff] at h
    obtain ⟨⟨inner, after⟩, h, heq⟩ := h
    cases heq
    rw [← ih h]; rfl
  | case3 c cs _ hc =>
    cases h
    rw [hc.1]; rfl
  | case4 c cs _ hc hblock => exact absurd ⟨hblock.1, by simp [← hb]⟩ hc
  | case5 => cases h
  | case6 c cs _ _ _ _ ih =>
    simp only [Option.map_eq_some_iff] at h
    obtain ⟨⟨inner, after⟩, h, heq⟩ := h
    cases heq
    rw [← ih h]; rfl

/-- How many line ends are passed until a quoted text turns out to be unclosed. -/
def passedLines (isBlock : Bool) : List Char → Nat
  | [] | [_] => 0
  | '\\' :: c :: d :: cs => (if c = '\n' then 1 else 0) + passedLines isBlock (d :: cs)
  | c :: d :: cs => if c = '\n' then if isBlock then passedLines isBlock (d :: cs) + 1 else 0 else passedLines isBlock (d :: cs)

/-- A quoted text after its first quote, and what follows it. -/
def quotation (q : Quotation) (quote : Char) (line : Nat) (cs : List Char) : Except Fault (Quotation × List Char) :=
  let isBlock := [quote, quote].isPrefixOf cs
  let body := if isBlock then cs.drop 2 else cs
  match closing? quote isBlock body with
  | some (content, rest) => .ok ({ q with content }, rest)
  | none => .error (.unclosedText isBlock (line + passedLines isBlock body))

end ClassChain.Literal

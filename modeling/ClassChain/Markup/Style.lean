import ClassChain.Markup.Colour
import ClassChain.Text.Blank
import ClassChain.Text.Small

/-!
# Styles

A tag names a style by words: attributes such as `bold`, some with short names, colours, colours behind the text, and links. Two
spellings of one style close each other, so a name is brought into a normal form: attributes in a fixed order, then the colours,
then the link. A name that is no style is only trimmed and put in small letters.
-/

namespace ClassChain.Markup

/-- The attributes of text in their fixed order, with their short names. -/
def attributeNames : List (String × List String) :=
  [("bold", ["b"]), ("dim", ["d"]), ("italic", ["i"]), ("underline", ["u"]), ("blink", []), ("blink2", []), ("reverse", ["r"]),
    ("conceal", ["c"]), ("strike", ["s"]), ("underline2", ["uu"]), ("frame", []), ("encircle", []), ("overline", ["o"])]

/-- The attribute that a word names, by its place in the order. -/
def attributeIndex? (word : String) : Option Nat :=
  attributeNames.findIdx? fun a => a.1 == word || a.2.contains word

/-- A style as its words say it. -/
structure Style where
  /-- Attributes turned on or off, by their places; the first of a place counts. -/
  attributes : List (Nat × Bool) := []
  colour? : Option String := none
  background? : Option String := none
  link? : Option String := none

/-- Reads words into a style that was begun; `none` if they are no style. -/
def Style.read? (style : Style) : List String → Except AmountFault (Option Style)
  | [] => .ok (some style)
  | word :: words =>
    match Text.lower word, words with
    | "on", colour :: rest => do
      let colour := Text.lower colour
      if ← isColour colour then Style.read? { style with background? := some colour } rest else return none
    | "on", [] => .ok none
    | "not", attr :: rest =>
      match attributeIndex? attr with
      | some index => { style with attributes := (index, false) :: style.attributes }.read? rest
      | none => .ok none
    | "not", [] => .ok none
    | "link", target :: rest => { style with link? := some target }.read? rest
    | "link", [] => .ok none
    | small, words =>
      match attributeIndex? small with
      | some index => { style with attributes := (index, true) :: style.attributes }.read? words
      | none => do
        if ← isColour small then Style.read? { style with colour? := some small } words else return none

/-- The words of a style in their order. -/
def Style.words (style : Style) : List String :=
  let shown := attributeNames.zipIdx.filterMap fun (a, index) =>
    (style.attributes.lookup index).map fun on => if on then a.1 else "not " ++ a.1
  shown ++ style.colour?.toList ++ (style.background?.map ("on " ++ ·)).toList ++ (style.link?.map ("link " ++ ·)).toList

/-- The words of a text, which blanks separate. -/
def wordsOf (cs : List Char) : List String :=
  ((Text.splitWhere Text.isBlank cs).filter (!·.isEmpty)).map String.ofList

/-- The normal form of the name of a style. -/
def normalName (name : List Char) : Except AmountFault String :=
  match wordsOf name with
  | [] => .ok "none"
  | ["none"] => .ok "none"
  | words => do
    match ← ({} : Style).read? words with
    | some style => return " ".intercalate style.words
    | none => return Text.lower (String.ofList (Text.trimBlanks name))

end ClassChain.Markup

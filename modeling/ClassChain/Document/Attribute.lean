import ClassChain.Text.Word

/-!
# Attributes

An attribute is a name, an equals sign and a quoted value, as in `class="..."`, `:class='...'` or `v-bind:class="..."`. A value
reaches to the first later mark of the kind that opened it, over lines and over marks of the other kind.

`append_of_attribute?` says that the attribute that a text opens with and what follows it are the text.
-/

namespace ClassChain.Document

/-- The two marks that quote a value. -/
inductive Quote where
  | single
  | double
  deriving DecidableEq, Repr

/-- The mark itself. -/
def Quote.char : Quote → Char
  | .single => '\''
  | .double => '"'

/-- The mark that a character is, if it is one. -/
def Quote.ofChar? (c : Char) : Option Quote :=
  if c = '\'' then some .single else if c = '"' then some .double else none

theorem Quote.char_of_ofChar? {c : Char} {q : Quote} (h : Quote.ofChar? c = some q) : q.char = c := by
  simp only [Quote.ofChar?] at h
  split at h
  · rename_i hc; simp only [Option.some.injEq] at h; rw [← h, hc]; rfl
  · split at h
    · rename_i hc; simp only [Option.some.injEq] at h; rw [← h, hc]; rfl
    · simp at h

@[simp] theorem Quote.ofChar?_char (q : Quote) : Quote.ofChar? q.char = some q := by cases q <;> decide

/-- A name with a quoted value. -/
structure Attribute where
  /-- The name before the equals sign. -/
  name : List Char
  /-- The mark around the value. -/
  quote : Quote
  /-- What stands between the marks. -/
  value : List Char
  deriving DecidableEq, Repr

/-- The attribute as it is written. -/
def Attribute.text (a : Attribute) : List Char :=
  a.name ++ '=' :: a.quote.char :: (a.value ++ [a.quote.char])

/-- A character that may open a name. -/
def isNameStart (c : Char) : Bool := Text.isWord c || c == ':' || c == '@'

/-- A character that may go on with a name. -/
def isNameChar (c : Char) : Bool := isNameStart c || c == '.' || c == '-'

/-- The text up to a mark and the text after it; `none` if the mark does not occur. -/
def cutAt (mark : Char) (cs : List Char) : Option (List Char × List Char) :=
  match cs.dropWhile (· != mark) with
  | [] => none
  | _ :: rest => some (cs.takeWhile (· != mark), rest)

/-- The attribute that text opens with, and what follows it. -/
def attribute? : List Char → Option (Attribute × List Char)
  | [] => none
  | c :: cs =>
    if isNameStart c then
      match cs.dropWhile isNameChar with
      | '=' :: mark :: tail =>
        match Quote.ofChar? mark, cutAt mark tail with
        | some quote, some (value, rest) => some (⟨c :: cs.takeWhile isNameChar, quote, value⟩, rest)
        | _, _ => none
      | _ => none
    else none

theorem append_of_cutAt {mark : Char} {cs before rest : List Char} (h : cutAt mark cs = some (before, rest)) :
    before ++ mark :: rest = cs := by
  simp only [cutAt] at h
  split at h
  · simp at h
  · rename_i c tail hdrop
    simp only [Option.some.injEq, Prod.mk.injEq] at h
    obtain ⟨rfl, rfl⟩ := h
    have hc : c = mark := by
      have := List.head?_dropWhile_not (· != mark) cs
      rw [hdrop] at this
      simpa using this
    rw [← hc, ← hdrop, hc, List.takeWhile_append_dropWhile]

/-- The attribute and what follows it are the text. -/
theorem append_of_attribute? {cs rest : List Char} {a : Attribute} (h : attribute? cs = some (a, rest)) :
    a.text ++ rest = cs := by
  match cs with
  | [] => simp [attribute?] at h
  | c :: cs =>
    simp only [attribute?] at h
    split at h
    · split at h
      · rename_i mark tail hdrop
        split at h
        · rename_i quote value rest' hq hcut
          simp only [Option.some.injEq, Prod.mk.injEq] at h
          obtain ⟨rfl, rfl⟩ := h
          simp only [Attribute.text, List.append_assoc, List.cons_append, List.nil_append, Quote.char_of_ofChar? hq]
          rw [append_of_cutAt hcut, ← hdrop, List.takeWhile_append_dropWhile]
        · simp at h
      · simp at h
    · simp at h

/-- What follows an attribute is shorter than the text. -/
theorem length_lt_of_attribute? {cs rest : List Char} {a : Attribute} (h : attribute? cs = some (a, rest)) :
    rest.length < cs.length := by
  rw [← append_of_attribute? h]
  simp only [Attribute.text, List.length_append, List.length_cons]
  omega

end ClassChain.Document

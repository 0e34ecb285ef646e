import ClassChain.Markup.Tag
import ClassChain.Text.Newline

/-!
# Drawing styled text

Text is drawn line by line in a width: what is too long goes on in a further line, at the start of a word if it can, and blanks
beyond the width are not drawn. A run with a style is cut where its text is cut, and vanishes where nothing of it is left; only a
text that is not cut at all keeps empty runs. The styles of the runs that are left are needed, so an amount in one of them that is
no number is noticed only here.

`spans_of_mem_drawn` says that drawing gives no run a new style.
-/

namespace ClassChain.Markup

namespace Shown

/-- The part of a text from one place to before another. -/
def part (t : Shown) (start stop : Nat) : Shown where
  text := (t.text.take stop).drop start
  spans := t.spans.filterMap fun s =>
    let first := max s.start start
    let last := min s.stop stop
    if first < last then some ⟨first - start, last - start, s.style⟩ else none

/-- The parts from a place on, cut at later places. -/
def partsFrom (t : Shown) (start : Nat) : List Nat → List Shown
  | [] => [t.part start t.text.length]
  | stop :: stops => t.part start stop :: t.partsFrom stop stops

/-- The parts of a text that is cut at places; one that is not cut stays as it is. -/
def cut (t : Shown) (places : List Nat) : List Shown := if places.isEmpty then [t] else t.partsFrom 0 places

/-- Where the lines of a text end and begin, the text counted from a place. -/
def lineEnds (place : Nat) : List Char → List Nat
  | [] => []
  | c :: cs => if c = '\n' then place :: (place + 1) :: lineEnds (place + 1) cs else lineEnds (place + 1) cs

/-- The lines of a text, without the newlines between them. -/
def lines (t : Shown) : List Shown := (t.cut (lineEnds 0 t.text)).filter (·.text != ['\n'])

/-- How far tabs move what follows. -/
def tabStop : Nat := 8

/-- The columns of the characters of a line from a column on, and the column after them. -/
def columnsFrom (column : Nat) : List Char → List Nat
  | [] => [column]
  | c :: cs => column :: columnsFrom (if c = '\t' then (column / tabStop + 1) * tabStop else column + 1) cs

/-- A line with spaces for its tabs. -/
def spaced (t : Shown) : Shown :=
  if t.text.contains '\t' then
    let columns := columnsFrom 0 t.text
    let place (i : Nat) : Nat := columns.getD i 0
    { text := ((t.text.zip columns).zip columns.tail).flatMap fun ((c, first), last) =>
        if c = '\t' then List.replicate (last - first) ' ' else [c]
      spans := t.spans.filterMap fun s => if s.start < s.stop then some ⟨place s.start, place s.stop, s.style⟩ else none }
  else t

/-- What follows the first word of a text and the blanks after it. -/
def afterWord (cs : List Char) : List Char :=
  (((cs.dropWhile Text.isBlank).dropWhile (!Text.isBlank ·))).dropWhile Text.isBlank

/-- The words of a line with the blanks after them; blanks before the first belong to it. What is blank all over has none. -/
def wordsOf (cs : List Char) : List (List Char) :=
  match _h : cs.dropWhile Text.isBlank with
  | [] => []
  | _ :: _ => cs.take (cs.length - (afterWord cs).length) :: wordsOf (afterWord cs)
termination_by cs.length
decreasing_by
  rename_i c rest
  have hblank : Text.isBlank c = false := by
    have hhead := List.head?_dropWhile_not Text.isBlank cs
    rw [_h] at hhead
    simpa using hhead
  have hrest := (List.dropWhile_suffix (p := Text.isBlank) (l := cs)).length_le
  have hword := (List.dropWhile_suffix (p := Text.isBlank) (l := (c :: rest).dropWhile (!Text.isBlank ·))).length_le
  have hletters : ((c :: rest).dropWhile (!Text.isBlank ·)).length ≤ rest.length := by
    rw [List.dropWhile_cons_of_pos (by simp [hblank])]
    exact (List.dropWhile_suffix _).length_le
  rw [afterWord, _h]
  rw [_h, List.length_cons] at hrest
  omega

/-- Where a word of a length that starts at a place goes on in further lines. -/
def folds (width start length : Nat) : List Nat :=
  (List.range ((length + width - 1) / width)).filterMap fun i => if start + i * width = 0 then none else some (start + i * width)

/-- Where words that start at a place go on in further lines of a width, when so much of a line is used. -/
def breaksFrom (width place used : Nat) : List (List Char) → List Nat
  | [] => []
  | word :: words =>
    let next := place + word.length
    let size := (word.reverse.dropWhile Text.isBlank).length
    if used + size ≤ width then breaksFrom width next (used + word.length) words
    else if width < size then
      folds width place word.length ++ breaksFrom width next ((word.length - 1) % width + 1) words
    else if 0 < used ∧ 0 < place then place :: breaksFrom width next word.length words
    else breaksFrom width next used words

/-- A line without the blanks beyond a width. -/
def trimmed (width : Nat) (t : Shown) : Shown :=
  let size := t.text.length
  let kept := max width (t.text.reverse.dropWhile Text.isBlank).length
  if size ≤ kept then t
  else { text := t.text.take kept, spans := t.spans.filter (·.start < kept) }

/-- The lines in which a text is drawn in a width. -/
def drawn (width : Nat) (t : Shown) : List Shown :=
  t.lines.flatMap fun line =>
    let line := line.spaced
    (line.cut (breaksFrom width 0 0 (wordsOf line.text))).map (trimmed width)

/-- The width that a text asks for. -/
def width (t : Shown) : Nat := Text.longestLine t.text

end Shown

/-- What is wrong with the style of a run. -/
def Span.fault? (s : Span) : Option Fault :=
  match ({} : Style).read? (wordsOf s.style) with
  | .ok _ => none
  | .error fault => some (.amount fault)

/-- What is wrong with the styles of a text that is drawn in a width; nothing is drawn in none. -/
def Shown.fault? (width : Nat) (t : Shown) : Option Fault :=
  if width = 0 then none else (t.drawn width).findSome? fun line => line.spans.findSome? Span.fault?

namespace Shown

variable {t line : Shown}

/-- Cutting a text gives no run a new style. -/
theorem spans_of_mem_cut {places : List Nat} (h : line ∈ t.cut places) : ∀ s ∈ line.spans, ∃ s' ∈ t.spans, s.style = s'.style := by
  have hpart : ∀ (start stop : Nat), ∀ s ∈ (t.part start stop).spans, ∃ s' ∈ t.spans, s.style = s'.style := by
    intro start stop s hs
    obtain ⟨s', hs', heq⟩ := List.mem_filterMap.mp hs
    simp only [Option.ite_none_right_eq_some, Option.some.injEq] at heq
    exact ⟨s', hs', by rw [← heq.2]⟩
  have hparts : ∀ (places : List Nat) (start : Nat), line ∈ t.partsFrom start places →
      ∀ s ∈ line.spans, ∃ s' ∈ t.spans, s.style = s'.style := by
    intro places
    induction places with
    | nil => intro start hmem; rw [List.mem_singleton.mp hmem]; exact hpart _ _
    | cons stop stops ih =>
      intro start hmem
      rcases List.mem_cons.mp hmem with rfl | hmem
      · exact hpart _ _
      · exact ih stop hmem
  unfold cut at h
  split at h
  · rw [List.mem_singleton.mp h]; exact fun s hs => ⟨s, hs, rfl⟩
  · exact hparts _ _ h

theorem spans_spaced (t : Shown) : ∀ s ∈ t.spaced.spans, ∃ s' ∈ t.spans, s.style = s'.style := by
  intro s hs
  unfold spaced at hs
  split at hs
  · obtain ⟨s', hs', heq⟩ := List.mem_filterMap.mp hs
    simp only [Option.ite_none_right_eq_some, Option.some.injEq] at heq
    exact ⟨s', hs', by rw [← heq.2]⟩
  · exact ⟨s, hs, rfl⟩

theorem spans_trimmed (width : Nat) (t : Shown) : ∀ s ∈ (trimmed width t).spans, s ∈ t.spans := by
  intro s hs
  unfold trimmed at hs
  dsimp only at hs
  split at hs
  · exact hs
  · exact (List.mem_filter.mp hs).1

/-- Drawing gives no run a new style. -/
theorem spans_of_mem_drawn {width : Nat} (h : line ∈ t.drawn width) : ∀ s ∈ line.spans, ∃ s' ∈ t.spans, s.style = s'.style := by
  intro s hs
  obtain ⟨row, hrow, hline⟩ := List.mem_flatMap.mp h
  obtain ⟨part, hpart, rfl⟩ := List.mem_map.mp hline
  obtain ⟨s₁, hs₁, heq₁⟩ := spans_of_mem_cut hpart s (spans_trimmed width part s hs)
  obtain ⟨s₂, hs₂, heq₂⟩ := spans_spaced row s₁ hs₁
  obtain ⟨s₃, hs₃, heq₃⟩ := spans_of_mem_cut (List.mem_filter.mp hrow).1 s₂ hs₂
  exact ⟨s₃, hs₃, heq₁.trans (heq₂.trans heq₃)⟩

end Shown

theorem Span.fault?_congr {s s' : Span} (h : s.style = s'.style) : s.fault? = s'.fault? := by rw [fault?, fault?, h]

/-- A text whose runs have styles without fault is drawn in any width. -/
theorem Shown.fault?_eq_none {t : Shown} (h : ∀ s ∈ t.spans, s.fault? = none) (width : Nat) : t.fault? width = none := by
  unfold Shown.fault?
  split
  · rfl
  · rw [List.findSome?_eq_none_iff]
    intro line hline
    rw [List.findSome?_eq_none_iff]
    intro s hs
    obtain ⟨s', hs', heq⟩ := spans_of_mem_drawn hline s hs
    rw [Span.fault?_congr heq]
    exact h s' hs'

end ClassChain.Markup

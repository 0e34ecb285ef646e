import ClassChain.Display
import ClassChain.Proofs.Markup.Escape

/-!
# Markup without fault

Markup is sound when it is read and its runs have styles without fault; then it is drawn in any width (`Display.fault?_eq_none`).
Pieces of which no tag is taken neither open nor close anything (`readFrom_quiet`), so quiet text is sound, and in a style too
(`sound_styled`): the closing tag closes the style, unless backslashes at the end of the text go to it. Then it is shown, and the
style stays open to the end.
-/

namespace ClassChain

namespace Markup

/-- Markup that is read, with styles that can be drawn. -/
def Sound (markup : String) : Prop := ∃ t, read markup.toList = .ok t ∧ ∀ s ∈ t.spans, s.fault? = none

section

variable {r r' : Reading} {position slashes : Nat} {body : List Char} {rest : List Piece}

/-- An escaped tag is shown. -/
theorem readFrom_of_odd (h : slashes % 2 = 1) :
    r.readFrom position (.tag slashes body :: rest) =
      ((r.show (halved slashes)).show ('[' :: (body ++ [']']))).readFrom (position + slashes + body.length + 2) rest := by
  rw [Reading.readFrom]
  simp only [h, if_true]

/-- Any other is taken. -/
theorem readFrom_of_take (h : slashes % 2 ≠ 1) (htake : (r.show (halved slashes)).take (position + slashes) body = .ok r') :
    r.readFrom position (.tag slashes body :: rest) = r'.readFrom (position + slashes + body.length + 2) rest := by
  rw [Reading.readFrom]
  simp only [h, if_false, htake]

end

/-- Quiet pieces are only shown. -/
theorem readFrom_quiet {ps : List Piece} (h : ∀ p ∈ ps, p.isQuiet = true) (rest : List Piece) (r : Reading) (position : Nat) :
    ∃ (r' : Reading) (position' : Nat), r'.opened = r.opened ∧ r'.closed = r.closed ∧
      r.readFrom position (ps ++ rest) = r'.readFrom position' rest := by
  induction ps generalizing r position with
  | nil => exact ⟨r, position, rfl, rfl, rfl⟩
  | cons p ps ih =>
    obtain ⟨hp, hps⟩ := List.forall_mem_cons.mp h
    cases p with
    | plain c =>
      rw [List.cons_append, Reading.readFrom]
      split
      · exact ih hps r _
      · exact ih hps (r.show [c]) _
    | tag slashes body =>
      have hodd : slashes % 2 = 1 := by simpa [Piece.isQuiet] using hp
      rw [List.cons_append, readFrom_of_odd hodd]
      exact ih hps ((r.show (halved slashes)).show ('[' :: (body ++ [']']))) _

/-- The runs in the end are those of the closed tags and of those that are open. -/
theorem mem_spans_finish {r : Reading} {s : Span} (h : s ∈ r.finish.spans) :
    (∃ t ∈ r.opened, s.style = t.style) ∨ s ∈ r.closed := by
  rw [Reading.finish, List.mem_mergeSort, List.mem_append, List.mem_reverse, List.mem_map] at h
  rcases h with ⟨t, ht, rfl⟩ | h
  · exact .inl ⟨t, ht, rfl⟩
  · exact .inr h

theorem sound_of_quiet {markup : String} (h : Quiet markup.toList) : Sound markup := by
  obtain ⟨r, position, hopened, hclosed, hread⟩ := readFrom_quiet h [] {} 0
  rw [List.append_nil, Reading.readFrom] at hread
  refine ⟨r.finish, ?_, fun s hs => ?_⟩
  · rw [read, hread]
    rfl
  · rcases mem_spans_finish hs with ⟨t, ht, -⟩ | hs
    · rw [hopened] at ht
      cases ht
    · rw [hclosed] at hs
      cases hs

/-! ## Styles -/

theorem partsOf_of_not_mem {cs : List Char} (h : '=' ∉ cs) : partsOf cs = (cs, none) := by
  have hdrop : cs.dropWhile (· != '=') = [] := List.dropWhile_eq_nil_iff.mpr fun c hc => by
    simpa using ne_of_mem_of_not_mem hc h
  rw [partsOf, hdrop]

/-- A name of a style in its normal form that opens and closes as a tag. -/
structure IsStyle (style : String) : Prop where
  /-- A tag can begin so, and neither closes something nor has a call. -/
  letter : ∃ c cs, style.toList = c :: cs ∧ isTagStart c = true ∧ c ≠ '/' ∧ c ≠ '@'
  inside : ∀ c ∈ style.toList, isBracket c = false ∧ c ≠ '='
  word : (Text.trimBlanks style.toList).isEmpty = false
  /-- The tags have the name as it is. -/
  name : tagName style.toList = .ok style
  drawn : ∀ start stop, Span.fault? ⟨start, stop, style.toList⟩ = none

namespace IsStyle

variable {style : String}

theorem body (h : IsStyle style) : IsBody style.toList := by
  obtain ⟨c, cs, hstyle, hstart, -⟩ := h.letter
  exact ⟨c, cs, hstyle, hstart, fun d hd => (h.inside d (by rw [hstyle]; exact List.mem_cons_of_mem _ hd)).1⟩

theorem body_closing (h : IsStyle style) : IsBody ('/' :: style.toList) :=
  ⟨'/', style.toList, rfl, by decide, fun d hd => (h.inside d hd).1⟩

/-- The tag that the name opens at a place. -/
def opening (style : String) (start : Nat) : Tag := ⟨style, none, start⟩

theorem style_opening (style : String) (start : Nat) : (opening style start).style = style.toList := List.append_nil _

theorem partsOf_toList (h : IsStyle style) : partsOf style.toList = (style.toList, none) :=
  partsOf_of_not_mem fun hmem => (h.inside _ hmem).2 rfl

theorem partsOf_closing (h : IsStyle style) : partsOf ('/' :: style.toList) = ('/' :: style.toList, none) :=
  partsOf_of_not_mem fun hmem => by
    rcases List.mem_cons.mp hmem with heq | hmem
    · cases heq
    · exact (h.inside _ hmem).2 rfl

theorem take_opening (h : IsStyle style) (r : Reading) (position : Nat) :
    r.take position style.toList = .ok { r with opened := opening style r.shown.length :: r.opened } := by
  obtain ⟨c, cs, hstyle, -, hslash, -⟩ := h.letter
  have hname := h.name
  rw [Reading.take, h.partsOf_toList]
  rw [hstyle] at hname ⊢
  split
  · rename_i heq
    exact absurd (List.cons.inj (Prod.mk.inj heq).1).1 hslash
  · rename_i heq
    obtain ⟨rfl, rfl⟩ := Prod.mk.inj heq
    rw [hname]
    rfl

/-- Closing the name gives a run in its style. -/
theorem close_opening (h : IsStyle style) (start stop : Nat) :
    (opening style start).close stop = .ok [⟨start, stop, style.toList⟩] := by
  obtain ⟨c, cs, hstyle, -, -, hat⟩ := h.letter
  have hhead : (opening style start).name.toList.head? ≠ some '@' := by
    rw [opening, hstyle]
    simpa using hat
  rw [Tag.close, if_neg hhead, style_opening]
  rfl

theorem take_closing (h : IsStyle style) {r : Reading} {start : Nat} {below : List Tag}
    (hopened : r.opened = opening style start :: below) (position : Nat) :
    r.take position ('/' :: style.toList) =
      .ok { r with opened := below, closed := ⟨start, r.shown.length, style.toList⟩ :: r.closed } := by
  have hfind : r.opened.find? (·.name == style) = some (opening style start) := by
    rw [hopened, List.find?_cons_of_pos (by simp [opening])]
  have herase : r.opened.eraseP (·.name == style) = below := by
    rw [hopened, List.eraseP_cons_of_pos (by simp [opening])]
  rw [Reading.take, h.partsOf_closing]
  simp only [h.word, h.name, bind, Except.bind, hfind, h.close_opening, herase]
  rfl

end IsStyle

theorem toList_styled (style markup : String) :
    (styled style markup).toList = '[' :: (style.toList ++ ']' :: (markup.toList ++ '[' :: ('/' :: style.toList ++ [']']))) := by
  simp [styled, String.toList_append]

/-- What follows the tag of a style is read with the style open. -/
theorem readFrom_styled {style : String} (hstyle : IsStyle style) (cs : List Char) :
    ({} : Reading).readFrom 0 (pieces ('[' :: (style.toList ++ ']' :: cs))) =
      ({ opened := [IsStyle.opening style 0] } : Reading).readFrom (style.toList.length + 2) (pieces cs) := by
  have hpieces : pieces ('[' :: (style.toList ++ ']' :: cs)) = .tag 0 style.toList :: pieces cs := pieces_of_tag hstyle.body 0 cs
  rw [hpieces, readFrom_of_take (by decide) (hstyle.take_opening _ _), Nat.zero_add]
  rfl

/-- Before the tag that closes its style quiet text is quiet pieces, but backslashes at its end go to the tag. -/
theorem pieces_before_closing {style : String} {cs : List Char} (hstyle : IsStyle style) (h : Quiet cs) : ∃ ps n,
    (∀ p ∈ ps, p.isQuiet = true) ∧ pieces (cs ++ '[' :: ('/' :: style.toList ++ [']'])) = ps ++ [.tag n ('/' :: style.toList)] := by
  obtain ⟨ps, n, hps, happend⟩ := pieces_append (calm_bracket ('/' :: style.toList ++ [']'])) cs
  have hclosing : pieces (List.replicate n '\\' ++ '[' :: ('/' :: style.toList ++ [']'])) = [.tag n ('/' :: style.toList)] := by
    rw [pieces_of_tag hstyle.body_closing n [], pieces]
  exact ⟨ps, n, fun p hp => h p (hps ▸ List.mem_append_left _ hp), by rw [happend, hclosing]⟩

/-- Quiet text in a style is sound. -/
theorem sound_styled {style markup : String} (hstyle : IsStyle style) (h : Quiet markup.toList) : Sound (styled style markup) := by
  obtain ⟨ps, n, hps, hpieces⟩ := pieces_before_closing hstyle h
  obtain ⟨r, position, hopened, hclosed, hread⟩ :=
    readFrom_quiet hps [.tag n ('/' :: style.toList)] { opened := [IsStyle.opening style 0] } (style.toList.length + 2)
  have hbegin : ({} : Reading).readFrom 0 (pieces (styled style markup).toList) =
      r.readFrom position [.tag n ('/' :: style.toList)] := by
    rw [toList_styled, readFrom_styled hstyle, hpieces, hread]
  suffices hend : ∃ r' : Reading, r.readFrom position [.tag n ('/' :: style.toList)] = .ok r' ∧
      (∀ t ∈ r'.opened, t.style = style.toList) ∧ ∀ s ∈ r'.closed, s.style = style.toList by
    obtain ⟨r', hr', hopen, hclose⟩ := hend
    refine ⟨r'.finish, by rw [read, hbegin, hr']; rfl, fun s hs => ?_⟩
    have hs : s.style = style.toList := by
      rcases mem_spans_finish hs with ⟨t, ht, heq⟩ | hs
      · exact heq.trans (hopen t ht)
      · exact hclose s hs
    exact (Span.fault?_congr (show s.style = (⟨0, 0, style.toList⟩ : Span).style from hs)).trans (hstyle.drawn 0 0)
  by_cases hodd : n % 2 = 1
  · -- backslashes at the end of the text escape the closing tag, and the style reaches to the end
    refine ⟨_, by rw [readFrom_of_odd hodd, Reading.readFrom], ?_, ?_⟩
    · simp [Reading.show, hopened, IsStyle.style_opening]
    · simp [Reading.show, hclosed]
  · have hshown : (r.show (halved n)).opened = [IsStyle.opening style 0] := hopened
    refine ⟨_, by rw [readFrom_of_take hodd (hstyle.take_closing hshown _), Reading.readFrom], ?_, ?_⟩
    · simp
    · simp [Reading.show, hclosed]

/-! ## The styles that are used -/

/-- A small word that says nothing of the words after it is an attribute or a colour. -/
theorem Style.read?_word {style : Style} {word : String} (words : List String) (hlower : Text.lower word = word)
    (hword : word ∉ ["on", "not", "link"]) :
    style.read? (word :: words) =
      match attributeIndex? word with
      | some index => { style with attributes := (index, true) :: style.attributes }.read? words
      | none => do if ← isColour word then Style.read? { style with colour? := some word } words else return none := by
  simp only [List.mem_cons, List.not_mem_nil, or_false, not_or] at hword
  obtain ⟨hon, hnot, hlink⟩ := hword
  rw [Style.read?.eq_def style (word :: words)]
  dsimp only
  rw [hlower]
  split
  · contradiction
  · contradiction
  · contradiction
  · contradiction
  · contradiction
  · contradiction
  · rfl

/-- A style is read from its words, and has them as its name. -/
theorem isStyle_of_words {name : String} {words : List String} {style : Style} (hwords : wordsOf name.toList = words)
    (hsome : words ≠ [] ∧ words ≠ ["none"]) (hread : ({} : Style).read? words = .ok (some style))
    (hname : " ".intercalate style.words = name) (hword : (Text.trimBlanks name.toList).isEmpty = false)
    (hletter : ∃ c cs, name.toList = c :: cs ∧ isTagStart c = true ∧ c ≠ '/' ∧ c ≠ '@')
    (hinside : name.toList.all (fun c => !isBracket c && c != '=') = true) : IsStyle name where
  letter := hletter
  inside := fun c hc => by simpa using List.all_eq_true.mp hinside c hc
  word := hword
  name := by
    have hnormal : normalName name.toList = .ok name := by
      unfold normalName
      rw [hwords]
      split
      · exact absurd rfl hsome.1
      · exact absurd rfl hsome.2
      · rw [hread]
        exact congrArg Except.ok hname
    rw [tagName, hnormal]
    rfl
  drawn := fun start stop => by
    unfold Span.fault?
    rw [hwords, hread]

theorem read?_bold {colour : String} (h : colour ∈ ["red", "green", "yellow", "cyan"]) :
    ({} : Style).read? ["bold", colour] = .ok (some { attributes := [(0, true)], colour? := some colour }) := by
  have hcolour : Text.lower colour = colour ∧ colour ∉ ["on", "not", "link"] ∧ attributeIndex? colour = none ∧
      colour ∈ colourNames := by
    simp only [List.mem_cons, List.not_mem_nil, or_false] at h
    rcases h with rfl | rfl | rfl | rfl <;> exact ⟨Text.lower_eq_self (by decide), by decide, by decide, by decide⟩
  rw [Style.read?_word _ (Text.lower_eq_self (by decide)) (by decide), show attributeIndex? "bold" = some 0 by decide]
  dsimp only
  rw [Style.read?_word _ hcolour.1 hcolour.2.1, hcolour.2.2.1, isColour_of_mem_colourNames hcolour.2.2.2]
  rfl

theorem isStyle_bold {style : String} (colour : String)
    (h : (style, colour) ∈ [("bold red", "red"), ("bold green", "green"), ("bold yellow", "yellow"), ("bold cyan", "cyan")]) :
    IsStyle style := by
  simp only [List.mem_cons, List.not_mem_nil, or_false, Prod.mk.injEq] at h
  rcases h with ⟨rfl, rfl⟩ | ⟨rfl, rfl⟩ | ⟨rfl, rfl⟩ | ⟨rfl, rfl⟩ <;>
    exact isStyle_of_words (by cbv) (by decide) (read?_bold (by decide)) (by decide) (by cbv)
      ⟨_, _, rfl, by decide, by decide, by decide⟩ (by decide)

theorem isStyle_dim : IsStyle "dim" := by
  have hread : ({} : Style).read? ["dim"] = .ok (some { attributes := [(1, true)] }) := by
    rw [Style.read?_word _ (Text.lower_eq_self (by decide)) (by decide), show attributeIndex? "dim" = some 1 by decide]
    rfl
  exact isStyle_of_words (by cbv) (by decide) hread (by decide) (by cbv)
    ⟨_, _, rfl, by decide, by decide, by decide⟩ (by decide)

end Markup

/-- What is shown with sound markup has no fault. -/
theorem Display.fault?_eq_none {d : Display} (h : ∀ markup ∈ d.markups, Markup.Sound markup) : d.fault? = none := by
  have hmarkup : d.markups.findSome? markupFault? = none := by
    rw [List.findSome?_eq_none_iff]
    intro markup hmem
    obtain ⟨t, hread, -⟩ := h markup hmem
    rw [markupFault?, hread]
  have hstyle : d.markups.findSome? d.styleFault? = none := by
    rw [List.findSome?_eq_none_iff]
    intro markup hmem
    obtain ⟨t, hread, hspans⟩ := h markup hmem
    rw [Display.styleFault?, hread]
    exact Markup.Shown.fault?_eq_none hspans _
  rw [Display.fault?, hmarkup, hstyle]
  rfl

end ClassChain

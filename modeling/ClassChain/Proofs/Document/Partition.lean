import ClassChain.Proofs.Document.Pattern
import ClassChain.Proofs.Document.Rescan

/-!
# The scan as a search and as a partition

The scan of a document can be looked at in two other ways. It is a search: the units are the matches of the pattern of the mode, found
from left to right with none inside another (`search_pattern`). And it is a partition: its pieces are the document, and each of them
is what it must be where it stands (`allFit_scan`). `Piece.Fits` says what that is, in terms of the text that follows and of what the
pattern of attributes matches there, and not of the scan. There is one such partition only (`scan_render`), so nothing more is to be
known about the scan. `scan_partitions` says all of this, and of each unit also where it stands.
-/

namespace ClassChain.Document

/-! ## Searching -/

/-- The matches of a pattern from left to right, each searched for behind the one before, with the places where they start, when the
text starts at `start`. -/
def Pattern.search (p : Pattern) (hp : p.consumes = true) (start : Nat) (cs : List Char) : List (Nat × Match) :=
  match cs with
  | [] => []
  | c :: rest =>
    match h : p.match? (c :: rest) with
    | some found => (start, found.1) :: p.search hp (start + found.1.text.length) found.2
    | none => p.search hp (start + 1) rest
termination_by cs.length
decreasing_by
  · exact Pattern.length_lt_of_match? hp h
  · simp

section Search

variable {p : Pattern} {hp : p.consumes = true}

theorem Pattern.search_nil (start : Nat) : p.search hp start [] = [] := by rw [search]

theorem Pattern.search_of_match {cs : List Char} {found : Match × List Char} (h : p.match? cs = some found) (start : Nat) :
    p.search hp start cs = (start, found.1) :: p.search hp (start + found.1.text.length) found.2 := by
  cases cs with
  | nil =>
    have hlt := Pattern.length_lt_of_match? hp h
    simp at hlt
  | cons c rest => rw [search]; split <;> simp_all

theorem Pattern.search_of_none {c : Char} {rest : List Char} (h : p.match? (c :: rest) = none) (start : Nat) :
    p.search hp start (c :: rest) = p.search hp (start + 1) rest := by
  rw [search]
  split <;> simp_all

end Search

variable {mode : Mode} {cs rest : List Char}

theorem match?_pattern_of_attribute {a : Attribute} (h : attribute? cs = some (a, rest)) :
    mode.pattern.match? cs = some ((Piece.attr a).matched, rest) := by
  have hattribute : attributePattern.match? cs = some ((Piece.attr a).matched, rest) := by
    rw [match?_attributePattern, h]
    rfl
  cases mode with
  | everything => rw [match?_everything, hattribute, Option.some_or]
  | attributesOnly => exact hattribute

theorem match?_attributePattern_eq_none_iff : attributePattern.match? cs = none ↔ attribute? cs = none := by
  rw [match?_attributePattern, Option.map_eq_none_iff]

theorem match?_pattern_of_gap {c : Char} (h : attribute? (c :: rest) = none)
    (hc : mode = .attributesOnly ∨ Text.isBlank c = true) : mode.pattern.match? (c :: rest) = none := by
  have hattribute := match?_attributePattern_eq_none_iff.mpr h
  cases mode with
  | everything =>
    have hblank := hc.resolve_left (by simp)
    rw [match?_everything, hattribute, Option.none_or, match?_barePattern_of_blank hblank]
  | attributesOnly => exact hattribute

theorem match?_pattern_of_bare {c : Char} (h : attribute? (c :: rest) = none) (hc : Text.isBlank c = false) :
    Mode.everything.pattern.match? (c :: rest) = some ((Piece.bare (c :: rest.takeWhile isInk)).matched, rest.dropWhile isInk) := by
  have hink : isInk c = true := by simp [isInk, hc]
  rw [match?_everything, match?_attributePattern_eq_none_iff.mpr h, Option.none_or, match?_barePattern hink]

/-- The attributes and runs of a document are the matches of the pattern of the mode, with the places where these start. -/
theorem search_pattern (start : Nat) :
    mode.pattern.search mode.consumes_pattern start cs =
      (unitsFrom start (scan mode cs)).map fun unit => (unit.1, unit.2.matched) := by
  fun_induction scan mode cs generalizing start with
  | case1 => rw [Pattern.search_nil]; rfl
  | case2 c rest a after h ih => rw [Pattern.search_of_match (match?_pattern_of_attribute h), ih]; rfl
  | case3 c rest h hc ih => rw [Pattern.search_of_none (match?_pattern_of_gap h hc), ih]; rfl
  | case4 c rest h hc ih =>
    obtain ⟨rfl, hblank⟩ := bare_of_not_gap hc
    rw [Pattern.search_of_match (match?_pattern_of_bare h hblank), ih]
    rfl

/-! ## Partitions -/

/-- A run of characters of a class that the text after it does not go on with. -/
def Longest (test : Char → Bool) (run rest : List Char) : Prop :=
  (∀ c ∈ run, test c = true) ∧ ∀ c ∈ rest.head?, test c = false

/-- What a piece must be where it stands, with the text that follows it.

An attribute has a name that goes as far as it can, and its value goes up to the first mark of the kind that opened it. A bare run goes
up to the next blank, and no attribute is matched where it starts; there are none where only attributes are taken. Other characters
are blanks, or where only attributes are taken any from which on no attribute is matched. -/
def Piece.Fits (mode : Mode) (rest : List Char) : Piece → Prop
  | .attr a =>
    (∃ c more, a.name = c :: more ∧ isNameStart c = true ∧
        Longest isNameChar more ('=' :: a.quote.char :: (a.value ++ a.quote.char :: rest))) ∧
      Longest (· != a.quote.char) a.value (a.quote.char :: rest)
  | .bare run => mode = .everything ∧ run ≠ [] ∧ Longest isInk run rest ∧ attributePattern.match? (run ++ rest) = none
  | .gap c =>
    match mode with
    | .everything => Text.isBlank c = true
    | .attributesOnly => attributePattern.match? (c :: rest) = none

/-- Every piece is what it must be, with the text of the pieces after it. -/
def AllFit (mode : Mode) : List Piece → Prop
  | [] => True
  | piece :: pieces => piece.Fits mode (render pieces) ∧ AllFit mode pieces

theorem longest_isNameChar_iff {run : List Char} : Longest isNameChar run ('=' :: rest) ↔ ∀ c ∈ run, isNameChar c = true := by
  simp [Longest, isNameChar_equals]

theorem longest_mark_iff {mark : Char} {value : List Char} : Longest (· != mark) value (mark :: rest) ↔ mark ∉ value := by
  simp only [Longest, List.head?_cons, Option.mem_def, Option.some.injEq, bne_iff_ne]
  constructor
  · rintro ⟨hne, -⟩ hmem
    exact hne mark hmem rfl
  · rintro hmark
    refine ⟨fun c hc heq => hmark (heq ▸ hc), ?_⟩
    rintro c rfl
    simp

theorem longest_isInk_iff {run : List Char} : run ≠ [] ∧ Longest isInk run rest ↔ Chain.Solid run ∧ Chain.EndsWord rest := by
  simp only [Longest, isInk, Bool.not_eq_true', Bool.not_eq_false', Chain.EndsWord]
  constructor
  · rintro ⟨hne, hrun, hrest⟩
    exact ⟨⟨hne, hrun⟩, hrest⟩
  · rintro ⟨⟨hne, hrun⟩, hrest⟩
    exact ⟨hne, hrun, hrest⟩

/-- An attribute fits wherever it can be read back from its own text. -/
theorem Piece.fits_attr_iff {a : Attribute} : (Piece.attr a).Fits mode rest ↔ a.WellFormed := by
  simp only [Piece.Fits, longest_isNameChar_iff, longest_mark_iff]
  constructor
  · rintro ⟨hname, hvalue⟩
    exact ⟨hname, hvalue⟩
  · rintro ⟨hname, hvalue⟩
    exact ⟨hname, hvalue⟩

theorem Piece.fits_bare_iff {run : List Char} :
    (Piece.bare run).Fits mode rest ↔
      mode = .everything ∧ (Chain.Solid run ∧ Chain.EndsWord rest) ∧ attribute? (run ++ rest) = none := by
  rw [Piece.Fits, match?_attributePattern_eq_none_iff, ← longest_isInk_iff, and_assoc]

/-- A character is a gap where it fits exactly when no attribute is read from there on and it opens no bare run. -/
theorem Piece.fits_gap_iff {c : Char} :
    (Piece.gap c).Fits mode rest ↔
      attribute? (c :: rest) = none ∧ (mode = .attributesOnly ∨ Text.isBlank c = true) := by
  cases mode with
  | everything =>
    have hblank : Text.isBlank c = true → attribute? (c :: rest) = none := attribute?_of_blank
    simpa [Piece.Fits] using hblank
  | attributesOnly => simp [Piece.Fits, match?_attributePattern_eq_none_iff]

/-- Every piece of a scan is what it must be. -/
theorem allFit_scan (mode : Mode) (cs : List Char) : AllFit mode (scan mode cs) := by
  fun_induction scan mode cs with
  | case1 => trivial
  | case2 c rest a after h ih => exact ⟨Piece.fits_attr_iff.mpr (wellFormed_of_attribute? h), ih⟩
  | case3 c rest h hc ih =>
    refine ⟨?_, ih⟩
    rw [render_scan]
    exact Piece.fits_gap_iff.mpr ⟨h, hc⟩
  | case4 c rest h hc ih =>
    obtain ⟨rfl, hblank⟩ := bare_of_not_gap hc
    refine ⟨?_, ih⟩
    rw [render_scan]
    have hrun : (c :: rest.takeWhile isInk) ++ rest.dropWhile isInk = c :: rest := by
      rw [List.cons_append, List.takeWhile_append_dropWhile]
    exact Piece.fits_bare_iff.mpr ⟨rfl, ⟨solid_of_bare hblank, Chain.endsWord_dropWhile rest⟩, by rw [hrun, h]⟩

/-- Pieces that are what they must be are the scan of their text. -/
theorem scan_render {pieces : List Piece} (h : AllFit mode pieces) : scan mode (render pieces) = pieces := by
  induction pieces with
  | nil => exact scan_nil mode
  | cons piece pieces ih =>
    obtain ⟨hpiece, hpieces⟩ := h
    have hrender : render (piece :: pieces) = piece.text ++ render pieces := List.flatMap_cons
    cases piece with
    | attr a =>
      have ha := attribute?_text (Piece.fits_attr_iff.mp hpiece) (render pieces)
      rw [hrender, Piece.text, scan_of_attribute ha, ih hpieces]
    | bare run =>
      obtain ⟨rfl, ⟨hsolid, hend⟩, hnone⟩ := Piece.fits_bare_iff.mp hpiece
      rw [hrender, Piece.text, scan_append_of_solid hsolid hend hnone, ih hpieces]
    | gap c =>
      obtain ⟨hnone, hc⟩ := Piece.fits_gap_iff.mp hpiece
      rw [hrender, Piece.text, List.singleton_append, scan_of_gap hnone hc, ih hpieces]

theorem mem_unitsFrom_cons {start place : Nat} {first piece : Piece} {pieces : List Piece}
    (h : (place, piece) ∈ unitsFrom start (first :: pieces)) :
    (place = start ∧ piece = first) ∨ (place, piece) ∈ unitsFrom (start + first.text.length) pieces := by
  cases first with
  | gap c => exact Or.inr h
  | bare run => simpa [unitsFrom] using h
  | attr a => simpa [unitsFrom] using h

/-- A unit is what it must be at its place. -/
theorem exists_of_mem_unitsFrom {start place : Nat} {piece : Piece} {pieces : List Piece} (hfit : AllFit mode pieces)
    (h : (place, piece) ∈ unitsFrom start pieces) :
    ∃ before after, before ++ (piece.text ++ after) = render pieces ∧ start + before.length = place ∧
      piece.Fits mode after := by
  induction pieces generalizing start with
  | nil => cases h
  | cons first pieces ih =>
    obtain ⟨hfirst, hothers⟩ := hfit
    have hrender : render (first :: pieces) = first.text ++ render pieces := List.flatMap_cons
    rcases mem_unitsFrom_cons h with ⟨rfl, rfl⟩ | h
    · exact ⟨[], render pieces, hrender.symm, rfl, hfirst⟩
    · obtain ⟨before, after, happend, hplace, hpiece⟩ := ih hothers h
      refine ⟨first.text ++ before, after, ?_, ?_, hpiece⟩
      · rw [hrender, ← happend, List.append_assoc]
      · rw [← hplace, List.length_append, Nat.add_assoc]

/-- The attributes and runs that the scan finds in a document, and their places, are those that searching for the pattern of the mode
finds. The pieces of the scan are the one partition of the document in which each piece is what it must be where it stands, and each
attribute or run stands at its place. -/
theorem scan_partitions (mode : Mode) (cs : List Char) :
    mode.pattern.search mode.consumes_pattern 0 cs = (units mode cs).map (fun unit => (unit.1, unit.2.matched)) ∧
      (∀ pieces, scan mode cs = pieces ↔ render pieces = cs ∧ AllFit mode pieces) ∧
      ∀ place piece, (place, piece) ∈ units mode cs →
        ∃ before after, before ++ (piece.text ++ after) = cs ∧ before.length = place ∧ piece.Fits mode after := by
  refine ⟨search_pattern 0, fun pieces => ⟨?_, ?_⟩, fun place piece h => ?_⟩
  · rintro rfl
    exact ⟨render_scan mode cs, allFit_scan mode cs⟩
  · rintro ⟨rfl, hfit⟩
    exact scan_render hfit
  · obtain ⟨before, after, happend, hplace, hpiece⟩ := exists_of_mem_unitsFrom (allFit_scan mode cs) h
    rw [render_scan] at happend
    exact ⟨before, after, happend, by rw [← hplace, Nat.zero_add], hpiece⟩

end ClassChain.Document

import ClassChain.Proofs.Document.Attribute

/-!
# Scanning the expansion of a document

The pieces of a written-out document against the pieces of the document: an attribute is read again with its value written out, a gap
as it was, and a bare run as its classes with a gap between them (`Piece.rescanned`). This is so unless a class of a bare run, read
where it stands in the output, opens an attribute that the document did not have; `StaysBare` says that none does, and
`scan_expand_of_staysBare` is the statement. It takes a chain with a quotation mark (`staysBare_of_no_quote`). Where only attributes
are taken, or where no bare run is written out, there is none, and the scan of the output differs from the scan of the document in
the values alone: `scan_expand`.
-/

namespace ClassChain.Document

/-- A piece with a function applied to its value, if it has one. -/
def Piece.mapValue (f : List Char → List Char) : Piece → Piece
  | .attr a => .attr { a with value := f a.value }
  | piece => piece

/-- The pieces that a piece is read as after it was written out. -/
def Piece.rescanned : Piece → List Piece
  | .gap c => [.gap c]
  | .bare run => ((Chain.classes run).map .bare).intersperse (.gap ' ')
  | .attr a => [.attr a.expand]

/-- None of some classes, read with those after it and the text after them, opens an attribute. -/
def NoneOpens (after : List Char) : List (List Char) → Prop
  | [] => True
  | c :: cs => attribute? ([' '].intercalate (c :: cs) ++ after) = none ∧ NoneOpens after cs

/-- No class of a bare run opens an attribute where it stands in the written-out document. -/
def StaysBare : List Piece → Prop
  | [] => True
  | .bare run :: pieces => NoneOpens (pieces.flatMap Piece.expanded) (Chain.classes run) ∧ StaysBare pieces
  | .gap _ :: pieces => StaysBare pieces
  | .attr _ :: pieces => StaysBare pieces

instance decidableNoneOpens (after : List Char) : (classes : List (List Char)) → Decidable (NoneOpens after classes)
  | [] => inferInstanceAs (Decidable True)
  | c :: cs =>
    have := decidableNoneOpens after cs
    inferInstanceAs (Decidable (attribute? ([' '].intercalate (c :: cs) ++ after) = none ∧ NoneOpens after cs))

instance decidableStaysBare : (pieces : List Piece) → Decidable (StaysBare pieces)
  | [] => inferInstanceAs (Decidable True)
  | .bare run :: pieces =>
    have := decidableStaysBare pieces
    inferInstanceAs (Decidable (NoneOpens (pieces.flatMap Piece.expanded) (Chain.classes run) ∧ StaysBare pieces))
  | .gap _ :: pieces => decidableStaysBare pieces
  | .attr _ :: pieces => decidableStaysBare pieces

/-! ## Writing out piece by piece -/

section Expanding

variable {mode : Mode}

@[simp] theorem expand_nil : expand mode [] = [] := by simp [expand]

theorem expand_of_attribute {cs after : List Char} {a : Attribute} (h : attribute? cs = some (a, after)) :
    expand mode cs = a.expand.text ++ expand mode after := by
  rw [expand, scan_of_attribute h, List.flatMap_cons]
  rfl

theorem expand_of_gap {c : Char} {rest : List Char} (h : attribute? (c :: rest) = none)
    (hc : mode = .attributesOnly ∨ Text.isBlank c = true) : expand mode (c :: rest) = c :: expand mode rest := by
  rw [expand, scan_of_gap h hc, List.flatMap_cons]
  rfl

theorem expand_of_bare {c : Char} {rest : List Char} (h : attribute? (c :: rest) = none) (hc : Text.isBlank c = false) :
    expand .everything (c :: rest) =
      Chain.expand (c :: rest.takeWhile isInk) ++ expand .everything (rest.dropWhile isInk) := by
  rw [expand, scan_of_bare h hc, List.flatMap_cons]
  rfl

/-- A character that opens no attribute and is no gap opens a bare run. -/
theorem bare_of_not_gap {c : Char} (h : ¬ (mode = .attributesOnly ∨ Text.isBlank c = true)) :
    mode = .everything ∧ Text.isBlank c = false := by
  obtain ⟨hmode, hblank⟩ := not_or.mp h
  refine ⟨?_, Bool.eq_false_iff.mpr hblank⟩
  cases mode with
  | everything => rfl
  | attributesOnly => exact absurd rfl hmode

/-- A bare run is a word. -/
theorem solid_of_bare {c : Char} {rest : List Char} (hc : Text.isBlank c = false) :
    Chain.Solid (c :: rest.takeWhile isInk) := by
  refine ⟨by simp, ?_⟩
  intro x hx
  rcases List.mem_cons.mp hx with rfl | hx
  · exact hc
  · simpa [isInk] using List.all_eq_true.mp List.all_takeWhile x hx

theorem endsWord_expand {cs : List Char} (h : Chain.EndsWord cs) : Chain.EndsWord (expand mode cs) := by
  cases cs with
  | nil => rw [expand_nil]; exact Chain.endsWord_nil
  | cons c cs =>
    have hc := Chain.endsWord_cons.mp h
    rw [expand_of_gap (attribute?_of_blank hc) (Or.inr hc)]
    exact Chain.endsWord_cons.mpr hc

theorem Attribute.WellFormed.expand {a : Attribute} (h : a.WellFormed) : a.expand.WellFormed := by
  refine ⟨h.isName, ?_⟩
  intro hm
  rcases Chain.mem_of_mem_expandWords hm with hspace | hvalue
  · exact quote_ne_space a.quote hspace
  · exact h.quote_not_mem hvalue

theorem Piece.mem_of_mem_expanded {piece : Piece} {c : Char} (h : c ∈ piece.expanded) : c = ' ' ∨ c ∈ piece.text := by
  cases piece with
  | gap b => exact Or.inr h
  | bare run => exact Chain.mem_of_mem_expand h
  | attr a =>
    rw [Piece.text, Attribute.mem_text]
    rcases Attribute.mem_text.mp h with hvalue | hother
    · exact (Chain.mem_of_mem_expandWords hvalue).imp_right Or.inl
    · exact Or.inr (Or.inr hother)

/-- Writing a document out brings in no character but the space. -/
theorem mem_of_mem_expand {cs : List Char} {c : Char} (h : c ∈ expand mode cs) : c = ' ' ∨ c ∈ cs := by
  obtain ⟨piece, hpiece, hc⟩ := List.mem_flatMap.mp h
  refine (Piece.mem_of_mem_expanded hc).imp_right fun hc => ?_
  rw [← render_scan mode cs]
  exact List.mem_flatMap.mpr ⟨piece, hpiece, hc⟩

theorem quote_mem_of_mem_expand {cs : List Char} (q : Quote) (h : q.char ∈ expand mode cs) : q.char ∈ cs :=
  (mem_of_mem_expand h).resolve_left (quote_ne_space q)

end Expanding

/-! ## Scanning what was written out -/

/-- Where only attributes are taken, a text that opens with none does not open with one when its end is written out. -/
theorem attribute?_append_expand {mode : Mode} (hmode : mode = .attributesOnly) (before : List Char) {cs : List Char}
    (h : attribute? (before ++ cs) = none) : attribute? (before ++ expand mode cs) = none := by
  fun_induction scan mode cs generalizing before with
  | case1 => rwa [expand_nil]
  | case2 c rest a after hsome ih =>
    obtain ⟨ha, htext⟩ := attribute?_eq_some_iff.mp hsome
    have hmem : ∀ q : Quote, q.char ∈ a.expand.text ++ expand mode after → q.char ∈ a.text ++ after := by
      intro q hq
      rw [htext]
      rw [← expand_of_attribute hsome] at hq
      exact quote_mem_of_mem_expand q hq
    rw [← htext] at h
    rw [expand_of_attribute hsome]
    exact attribute?_append_attribute ha h hmem
  | case3 c rest hnone hc ih =>
    rw [expand_of_gap hnone hc]
    have hrest := ih (before ++ [c]) (by simpa using h)
    simpa using hrest
  | case4 c rest hnone hc ih => exact absurd (Or.inl hmode) hc

/-- A character that was a gap opens no attribute in the written-out document. -/
theorem attribute?_gap_expand {mode : Mode} {c : Char} {rest : List Char} (h : attribute? (c :: rest) = none)
    (hc : mode = .attributesOnly ∨ Text.isBlank c = true) : attribute? (c :: expand mode rest) = none := by
  rcases hc with hmode | hblank
  · exact attribute?_append_expand hmode [c] h
  · exact attribute?_of_blank hblank

theorem scan_append_of_solid {run cs : List Char} (hrun : Chain.Solid run) (hcs : Chain.EndsWord cs)
    (h : attribute? (run ++ cs) = none) : scan .everything (run ++ cs) = .bare run :: scan .everything cs := by
  cases run with
  | nil => exact absurd rfl hrun.ne_nil
  | cons c run =>
    have hin : ∀ x ∈ run, Text.isBlank x = false := fun x hx => hrun.not_blank x (List.mem_cons_of_mem c hx)
    have htake : (run ++ cs).takeWhile isInk = run := Chain.takeWhile_append_of_endsWord hin hcs
    have hdrop : (run ++ cs).dropWhile isInk = cs := Chain.dropWhile_append_of_endsWord hin hcs
    rw [List.cons_append] at h ⊢
    rw [scan_of_bare h (hrun.not_blank c List.mem_cons_self), htake, hdrop]

/-- Classes of which none opens an attribute are read as bare runs with a gap between them. -/
theorem scan_intercalate {classes : List (List Char)} {after : List Char} (hne : classes ≠ [])
    (hsolid : ∀ c ∈ classes, Chain.Solid c) (hafter : Chain.EndsWord after) (hopen : NoneOpens after classes) :
    scan .everything ([' '].intercalate classes ++ after) =
      (classes.map .bare).intersperse (.gap ' ') ++ scan .everything after := by
  induction classes with
  | nil => exact absurd rfl hne
  | cons c classes ih =>
    have hc := hsolid c List.mem_cons_self
    obtain ⟨hnone, hothers⟩ := hopen
    cases classes with
    | nil =>
      rw [List.intercalate_singleton] at hnone ⊢
      exact scan_append_of_solid hc hafter hnone
    | cons d classes =>
      have hrest := ih (by simp) (fun x hx => hsolid x (List.mem_cons_of_mem _ hx)) hothers
      rw [Chain.intercalate_cons_append (by simp)] at hnone ⊢
      rw [scan_append_of_solid hc (Chain.endsWord_cons.mpr Text.isBlank_space) hnone,
        scan_of_gap (attribute?_of_blank Text.isBlank_space) (Or.inr Text.isBlank_space), hrest]
      rfl

/-- Where no class of a bare run opens an attribute, each piece of a document is read again as it was written out. -/
theorem scan_expand_of_staysBare {mode : Mode} {cs : List Char} (h : StaysBare (scan mode cs)) :
    scan mode (expand mode cs) = (scan mode cs).flatMap Piece.rescanned := by
  fun_induction scan mode cs with
  | case1 => simp
  | case2 c rest a after hsome ih =>
    have ha := (wellFormed_of_attribute? hsome).expand
    rw [expand_of_attribute hsome, scan_of_attribute (attribute?_text ha _), ih h]
    rfl
  | case3 c rest hnone hc ih =>
    rw [expand_of_gap hnone hc, scan_of_gap (attribute?_gap_expand hnone hc) hc, ih h]
    rfl
  | case4 c rest hnone hc ih =>
    obtain ⟨rfl, hblank⟩ := bare_of_not_gap hc
    have hsolid : Chain.Solid (c :: rest.takeWhile isInk) := solid_of_bare hblank
    have hend : Chain.EndsWord (expand .everything (rest.dropWhile isInk)) :=
      endsWord_expand (Chain.endsWord_dropWhile rest)
    obtain ⟨hopen, hothers⟩ := h
    rw [expand_of_bare hnone hblank, Chain.expand,
      scan_intercalate (Chain.classes_ne_nil _) (Chain.solid_of_mem_classes hsolid) hend hopen, ih hothers]
    rfl

/-- Classes without a quotation mark open no attribute. -/
theorem noneOpens_of_no_quote {classes : List (List Char)} {after : List Char} (hafter : Chain.EndsWord after)
    (h : ∀ c ∈ classes, ∀ q : Quote, q.char ∉ c) : NoneOpens after classes := by
  induction classes with
  | nil => trivial
  | cons c classes ih =>
    have hc := h c List.mem_cons_self
    refine ⟨?_, ih fun x hx => h x (List.mem_cons_of_mem _ hx)⟩
    cases classes with
    | nil =>
      rw [List.intercalate_singleton]
      exact attribute?_of_no_quote hc hafter
    | cons d classes =>
      rw [Chain.intercalate_cons_append (by simp)]
      exact attribute?_of_no_quote hc (Chain.endsWord_cons.mpr Text.isBlank_space)

/-- Where no chain among the bare runs has a quotation mark, no class of a bare run opens an attribute. -/
theorem staysBare_of_no_quote {mode : Mode} {cs : List Char}
    (h : ∀ run, Piece.bare run ∈ scan mode cs → Chain.IsChain run → ∀ q : Quote, q.char ∉ run) :
    StaysBare (scan mode cs) := by
  fun_induction scan mode cs with
  | case1 => trivial
  | case2 c rest a after hsome ih => exact ih fun run hrun => h run (List.mem_cons_of_mem _ hrun)
  | case3 c rest hnone hc ih => exact ih fun run hrun => h run (List.mem_cons_of_mem _ hrun)
  | case4 c rest hnone hc ih =>
    refine ⟨?_, ih fun run hrun => h run (List.mem_cons_of_mem _ hrun)⟩
    have hend : Chain.EndsWord (expand mode (rest.dropWhile isInk)) :=
      endsWord_expand (Chain.endsWord_dropWhile rest)
    by_cases hchain : Chain.IsChain (c :: rest.takeWhile isInk)
    · have hquote := h _ List.mem_cons_self hchain
      exact noneOpens_of_no_quote hend fun x hx q hq => hquote q ((Chain.sublist_of_mem_classes hx).subset hq)
    · -- the run stays, and opened no attribute with the text that followed it
      have hrun : attribute? ((c :: rest.takeWhile isInk) ++ rest.dropWhile isInk) = none := by
        rwa [List.cons_append, List.takeWhile_append_dropWhile]
      rw [Chain.classes_of_not_isChain hchain]
      refine ⟨?_, trivial⟩
      rw [List.intercalate_singleton]
      exact attribute?_append_eq_none hrun hend fun q hq => quote_mem_of_mem_expand q hq

/-- Where only attributes are taken there are no bare runs. -/
theorem bare_not_mem_scan {mode : Mode} (hmode : mode = .attributesOnly) {cs run : List Char} :
    Piece.bare run ∉ scan mode cs := by
  intro h
  fun_induction scan mode cs with
  | case1 => simp at h
  | case2 c rest a after hsome ih => exact ih (by simpa using h)
  | case3 c rest hnone hc ih => exact ih (by simpa using h)
  | case4 c rest hnone hc ih => exact hc (Or.inl hmode)

theorem rescanned_of_fixed {piece : Piece} (h : ∀ run, piece = .bare run → Chain.expand run = run) :
    piece.rescanned = [piece.mapValue Chain.expandWords] := by
  cases piece with
  | gap c => rfl
  | attr a => rfl
  | bare run =>
    have hchain := Chain.expand_eq_self_iff.mp (h run rfl)
    simp [Piece.rescanned, Piece.mapValue, Chain.classes_of_not_isChain hchain]

/-- Writing values out leaves the structure of a document as it was: where only attributes are taken, or where no bare run is written
out, the output has the same pieces in the same order, the same gaps, names, marks and bare runs, and each value written out. -/
theorem scan_expand {mode : Mode} {cs : List Char}
    (h : mode = .attributesOnly ∨ ∀ run, Piece.bare run ∈ scan mode cs → Chain.expand run = run) :
    scan mode (expand mode cs) = (scan mode cs).map (Piece.mapValue Chain.expandWords) := by
  have hfixed : ∀ run, Piece.bare run ∈ scan mode cs → Chain.expand run = run := by
    rcases h with rfl | h
    · exact fun run hrun => absurd hrun (bare_not_mem_scan rfl)
    · exact h
  have hbare : StaysBare (scan mode cs) :=
    staysBare_of_no_quote fun run hrun hchain => absurd hchain (Chain.expand_eq_self_iff.mp (hfixed run hrun))
  rw [scan_expand_of_staysBare hbare, List.flatMap_def,
    List.map_congr_left (g := fun piece => [piece.mapValue Chain.expandWords])]
  · rw [← List.flatMap_def, ← List.map_eq_flatMap]
  · exact fun piece hpiece => rescanned_of_fixed fun run heq => hfixed run (heq ▸ hpiece)

/-- A bare run with a delimiter and no variant stays, and the attribute after it is found again. -/
theorem scan_expand_bound_class :
    (∀ run, Piece.bare run ∈ scan .everything "a|b :class='md:x|y'".toList → Chain.expand run = run) ∧
      scan .everything (expand .everything "a|b :class='md:x|y'".toList) =
        (scan .everything "a|b :class='md:x|y'".toList).map (Piece.mapValue Chain.expandWords) := by
  have hscan : scan .everything "a|b :class='md:x|y'".toList =
      [.bare "a|b".toList, .gap ' ', .attr ⟨":class".toList, .single, "md:x|y".toList⟩] := by
    decide +kernel
  have hfixed : ∀ run, Piece.bare run ∈ scan .everything "a|b :class='md:x|y'".toList → Chain.expand run = run := by
    intro run hrun
    rw [hscan] at hrun
    simp only [List.mem_cons, Piece.bare.injEq, reduceCtorEq, List.not_mem_nil, or_false] at hrun
    subst hrun
    decide +kernel
  exact ⟨hfixed, scan_expand (Or.inr hfixed)⟩

end ClassChain.Document

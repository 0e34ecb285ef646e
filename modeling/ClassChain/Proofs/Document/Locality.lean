import ClassChain.Proofs.Document.Rescan

/-!
# Documents in two parts

A value may reach over blanks to a mark far behind, so a document that is cut in two is read otherwise than its parts. It is not where
a word ends at the cut and one of the parts has no quotation mark (`Apart`): then no attribute reaches over the cut
(`attribute?_append_of_apart`), and the pieces of the document are those of its parts (`scan_append_of_apart`). So what is written out
of either part does not depend on the other (`expandText_append_blanks`).
-/

namespace ClassChain.Document

/-- A text without quotation marks. -/
def Unquoted (cs : List Char) : Prop := ∀ q : Quote, q.char ∉ cs

/-- A text and what follows it, which no attribute can reach over: a word ends between them, and one of them has no quotation mark. -/
structure Apart (cs ds : List Char) : Prop where
  endsWord : Chain.EndsWord ds
  unquoted : Unquoted cs ∨ Unquoted ds

section

variable {mode : Mode} {a b w cs ds : List Char}

theorem Unquoted.append (ha : Unquoted a) (hb : Unquoted b) : Unquoted (a ++ b) :=
  fun q hq => (List.mem_append.mp hq).elim (ha q) (hb q)

theorem unquoted_of_blanks (h : ∀ c ∈ w, Text.isBlank c = true) : Unquoted w := by
  intro q hq
  have hblank := h _ hq
  rw [isBlank_quote] at hblank
  cases hblank

/-- What an end of the first part is followed by is apart from it too. -/
theorem Apart.of_suffix (h : Apart cs ds) (hsuffix : a <:+ cs) : Apart a ds where
  endsWord := h.endsWord
  unquoted := h.unquoted.imp_left fun hcs q hq => hcs q (hsuffix.subset hq)

/-- No attribute reaches over the cut, and none that ends before it is lost. -/
theorem attribute?_append_of_apart (h : Apart cs ds) :
    attribute? (cs ++ ds) = (attribute? cs).map fun found => (found.1, found.2 ++ ds) := by
  cases hcs : attribute? cs with
  | none =>
    rcases h.unquoted with hfirst | hsecond
    · exact attribute?_of_no_quote hfirst h.endsWord
    · have hend : attribute? (cs ++ []) = none := by rwa [List.append_nil]
      exact attribute?_append_eq_none hend h.endsWord fun q hq => absurd hq (hsecond q)
  | some found =>
    obtain ⟨x, rest⟩ := found
    obtain ⟨hx, rfl⟩ := attribute?_eq_some_iff.mp hcs
    rw [List.append_assoc, attribute?_text hx]
    rfl

theorem scan_append_of_apart (h : Apart cs ds) : scan mode (cs ++ ds) = scan mode cs ++ scan mode ds := by
  fun_induction scan mode cs with
  | case1 => rfl
  | case2 c rest x after hsome ih =>
    have hfound := attribute?_append_of_apart h
    rw [hsome] at hfound
    have hsuffix : after <:+ c :: rest := ⟨x.text, append_of_attribute? hsome⟩
    rw [scan_of_attribute hfound, ih (h.of_suffix hsuffix), List.cons_append]
  | case3 c rest hnone hc ih =>
    have hfound := attribute?_append_of_apart h
    rw [hnone] at hfound
    rw [List.cons_append] at hfound ⊢
    rw [scan_of_gap hfound hc, ih (h.of_suffix (List.suffix_cons c rest)), List.cons_append]
  | case4 c rest hnone hc ih =>
    have hfound := attribute?_append_of_apart h
    rw [hnone] at hfound
    obtain ⟨rfl, hblank⟩ := bare_of_not_gap hc
    have hsuffix : rest.dropWhile isInk <:+ c :: rest := (List.dropWhile_suffix isInk).trans (List.suffix_cons c rest)
    -- the run ends at the cut at the latest
    have hword : ∀ d ∈ rest.takeWhile isInk, Text.isBlank d = false := fun d hd => by
      simpa [isInk] using List.all_eq_true.mp List.all_takeWhile d hd
    have hend : Chain.EndsWord (rest.dropWhile isInk ++ ds) := (Chain.endsWord_dropWhile rest).append h.endsWord
    have hsplit : rest ++ ds = rest.takeWhile isInk ++ (rest.dropWhile isInk ++ ds) := by
      rw [← List.append_assoc, List.takeWhile_append_dropWhile]
    have hrun : (rest ++ ds).takeWhile isInk = rest.takeWhile isInk := by
      rw [hsplit]
      exact Chain.takeWhile_append_of_endsWord hword hend
    have hafter : (rest ++ ds).dropWhile isInk = rest.dropWhile isInk ++ ds := by
      rw [hsplit]
      exact Chain.dropWhile_append_of_endsWord hword hend
    rw [List.cons_append] at hfound ⊢
    rw [scan_of_bare hfound hblank, hrun, hafter, ih (h.of_suffix hsuffix), List.cons_append]

theorem scan_blanks_append (h : ∀ c ∈ w, Text.isBlank c = true) (cs : List Char) :
    scan mode (w ++ cs) = w.map .gap ++ scan mode cs := by
  induction w with
  | nil => rfl
  | cons c w ih =>
    obtain ⟨hc, hw⟩ := List.forall_mem_cons.mp h
    rw [List.cons_append, scan_of_gap (attribute?_of_blank hc) (Or.inr hc), ih hw]
    rfl

theorem flatMap_expanded_gaps (w : List Char) : (w.map Piece.gap).flatMap Piece.expanded = w := by
  rw [List.flatMap_map]
  exact List.flatMap_singleton' w

/-- Around blanks each part of a document is written out as it is alone, if one of the parts has no quotation mark. -/
theorem expand_append_blanks (hne : w ≠ []) (hblank : ∀ c ∈ w, Text.isBlank c = true) (h : Unquoted a ∨ Unquoted b) :
    expand mode (a ++ w ++ b) = expand mode a ++ w ++ expand mode b := by
  have hapart : Apart a (w ++ b) := by
    obtain ⟨c, w', rfl⟩ := List.exists_cons_of_ne_nil hne
    exact ⟨Chain.endsWord_cons.mpr (hblank c List.mem_cons_self), h.imp_right (unquoted_of_blanks hblank).append⟩
  calc expand mode (a ++ w ++ b)
      = (scan mode a ++ (w.map Piece.gap ++ scan mode b)).flatMap Piece.expanded := by
        rw [List.append_assoc, expand, scan_append_of_apart hapart, scan_blanks_append hblank]
    _ = expand mode a ++ w ++ expand mode b := by
        rw [List.flatMap_append, List.flatMap_append, flatMap_expanded_gaps, ← List.append_assoc]
        rfl

end

/-- The text of two parts with blanks between, one of them without quotation marks, is written out part by part. -/
theorem expandText_append_blanks (mode : Mode) {a b w : String} (hne : w ≠ "") (hblank : ∀ c ∈ w.toList, Text.isBlank c = true)
    (h : Unquoted a.toList ∨ Unquoted b.toList) :
    expandText mode (a ++ w ++ b) = expandText mode a ++ w ++ expandText mode b := by
  have hne' : w.toList ≠ [] := fun heq => hne (String.toList_inj.mp heq)
  rw [← String.toList_inj]
  simp only [String.toList_append, toList_expandText]
  exact expand_append_blanks hne' hblank h

/-- The first part has a mark that is never closed, and ends as an attribute begins. -/
theorem expandText_append_blanks_unclosed :
    ("\n " ≠ "" ∧ (∀ c ∈ "\n ".toList, Text.isBlank c = true) ∧
      (Unquoted "<p title='m:a|b class=".toList ∨ Unquoted "h:x|y>".toList)) ∧
    expandText .everything ("<p title='m:a|b class=" ++ "\n " ++ "h:x|y>") =
      "<p title='m:a title='m:b class=" ++ "\n " ++ "h:x h:y>" := by
  have hblank : ∀ c ∈ "\n ".toList, Text.isBlank c = true := List.all_eq_true.mp (by decide)
  have hquote : Unquoted "<p title='m:a|b class=".toList ∨ Unquoted "h:x|y>".toList :=
    .inr fun q => by cases q <;> decide
  have hfirst : expandText .everything "<p title='m:a|b class=" = "<p title='m:a title='m:b class=" := by cbv
  have hsecond : expandText .everything "h:x|y>" = "h:x h:y>" := by cbv
  have hwhole := expandText_append_blanks .everything (by decide) hblank hquote
  rw [hfirst, hsecond] at hwhole
  exact ⟨⟨by decide, hblank, hquote⟩, hwhole⟩

end ClassChain.Document

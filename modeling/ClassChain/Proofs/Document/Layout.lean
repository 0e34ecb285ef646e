import Mathlib.Data.List.Forall2
import ClassChain.Proofs.Document.Spread

/-!
# The layout of a document

A text is blanks and words in turn: `Layout` says which blanks stand before, between and after the words. Writing a document out
keeps its layout, in either mode and whatever attributes its words belong to: the blanks stay where they are, and each word is
replaced by one or more words found in it, with a space between them (`expand_keeps_layout`). A word can be written out to several,
so spaces come in; any other blank, a line end above all, is neither added nor taken away nor moved, and between two of them the
text is spread by itself (`Spread.forall₂_splitWhere`).
-/

namespace ClassChain.Document

/-- A text as blanks and words in turn: blanks before the first word, and each word with the blanks after it. -/
structure Layout where
  /-- The blanks before the first word. -/
  lead : List Char
  /-- The words, each with the blanks after it. -/
  runs : List (List Char × List Char)
  lead_blank : ∀ c ∈ lead, Text.isBlank c = true
  solid : ∀ run ∈ runs, Chain.Solid run.1
  gap_blank : ∀ run ∈ runs, ∀ c ∈ run.2, Text.isBlank c = true
  /-- Only the last word can have no blank after it. -/
  gap_ne_nil : ∀ run ∈ runs.dropLast, run.2 ≠ []

/-- The text of words, each with the blanks after it. -/
def runsText (runs : List (List Char × List Char)) : List Char := runs.flatMap fun run => run.1 ++ run.2

/-- The text that has the layout. -/
def Layout.text (lay : Layout) : List Char := lay.lead ++ runsText lay.runs

/-- The text with the same blanks in which some words, with a space between them, stand for each of the words. -/
def Layout.refill (lay : Layout) (words : List (List (List Char))) : List Char :=
  lay.lead ++ runsText (List.zipWith (fun run ws => ([' '].intercalate ws, run.2)) lay.runs words)

theorem runsText_cons (run : List Char × List Char) (runs : List (List Char × List Char)) :
    runsText (run :: runs) = run.1 ++ (run.2 ++ runsText runs) := by
  rw [runsText, List.flatMap_cons, List.append_assoc]
  rfl

/-- After a word comes a blank, or it is the last. -/
theorem endsWord_gap {run : List Char × List Char} {runs : List (List Char × List Char)}
    (hblank : ∀ c ∈ run.2, Text.isBlank c = true) (hne : ∀ r ∈ (run :: runs).dropLast, r.2 ≠ []) :
    Chain.EndsWord (run.2 ++ runsText runs) := by
  cases hgap : run.2 with
  | nil =>
    cases runs with
    | nil => exact Chain.endsWord_nil
    | cons next runs => exact absurd hgap (hne run (by simp))
  | cons b gap =>
    rw [List.cons_append, Chain.endsWord_cons]
    exact hblank b (by simp [hgap])

/-- Every text has a layout. -/
theorem exists_layout (cs : List Char) : ∃ lay : Layout, lay.text = cs := by
  induction cs using Chain.words_induction with
  | nil => exact ⟨⟨[], [], by simp, by simp, by simp, by simp⟩, rfl⟩
  | blank c cs hc ih =>
    obtain ⟨lay, rfl⟩ := ih
    refine ⟨⟨c :: lay.lead, lay.runs, ?_, lay.solid, lay.gap_blank, lay.gap_ne_nil⟩, rfl⟩
    intro x hx
    rcases List.mem_cons.mp hx with rfl | hx
    · exact hc
    · exact lay.lead_blank x hx
  | word w cs hw hcs ih =>
    obtain ⟨lay, rfl⟩ := ih
    refine ⟨⟨[], (w, lay.lead) :: lay.runs, by simp, ?_, ?_, ?_⟩, ?_⟩
    · intro run hrun
      rcases List.mem_cons.mp hrun with rfl | hrun
      · exact hw
      · exact lay.solid run hrun
    · intro run hrun
      rcases List.mem_cons.mp hrun with rfl | hrun
      · exact lay.lead_blank
      · exact lay.gap_blank run hrun
    · intro run hrun
      cases hruns : lay.runs with
      | nil => simp [hruns] at hrun
      | cons next runs =>
        rw [hruns, List.dropLast_cons_cons, ← hruns] at hrun
        rcases List.mem_cons.mp hrun with rfl | hrun
        · -- without a blank the next word would go on with this one
          intro hlead
          obtain ⟨c, v, hv⟩ := List.exists_cons_of_ne_nil (lay.solid next (by simp [hruns])).ne_nil
          have hc := (lay.solid next (by simp [hruns])).not_blank c (by simp [hv])
          have htext : lay.text = c :: (v ++ (next.2 ++ runsText runs)) := by
            simp only at hlead
            rw [Layout.text, hlead, hruns, runsText_cons, hv]
            rfl
          rw [htext, Chain.endsWord_cons, hc] at hcs
          simp at hcs
        · exact lay.gap_ne_nil run hrun
    · rw [Layout.text, runsText_cons, List.nil_append]
      rfl

/-! ## Reading a spread text along the layout -/

theorem Spread.eq_nil {ds : List Char} (h : Spread [] ds) : ds = [] := by
  generalize hx : ([] : List Char) = text at h
  cases h with
  | nil => rfl
  | blank _ _ => simp at hx
  | word hw _ _ _ => exact absurd (List.append_eq_nil_iff.mp hx.symm).1 hw.ne_nil

theorem Spread.of_blank_cons {b : Char} {cs ds : List Char} (hb : Text.isBlank b = true) (h : Spread (b :: cs) ds) :
    ∃ rest, ds = b :: rest ∧ Spread cs rest := by
  generalize hx : b :: cs = text at h
  cases h with
  | nil => simp at hx
  | blank _ h =>
    obtain ⟨rfl, rfl⟩ := List.cons_eq_cons.mp hx
    exact ⟨_, rfl, h⟩
  | @word w _ _ _ hw _ _ _ =>
    obtain ⟨c, w, rfl⟩ := List.exists_cons_of_ne_nil hw.ne_nil
    obtain ⟨rfl, -⟩ := List.cons_eq_cons.mp hx
    simp [hw.not_blank b (by simp)] at hb

theorem Spread.of_blanks_append {gap cs ds : List Char} (hgap : ∀ c ∈ gap, Text.isBlank c = true)
    (h : Spread (gap ++ cs) ds) : ∃ rest, ds = gap ++ rest ∧ Spread cs rest := by
  induction gap generalizing ds with
  | nil => exact ⟨ds, rfl, h⟩
  | cons b gap ih =>
    obtain ⟨tail, rfl, htail⟩ := h.of_blank_cons (hgap b (by simp))
    obtain ⟨rest, rfl, hrest⟩ := ih (fun c hc => hgap c (by simp [hc])) htail
    exact ⟨rest, rfl, hrest⟩

theorem Spread.of_word_append {w cs ds : List Char} (hw : Chain.Solid w) (hcs : Chain.EndsWord cs)
    (h : Spread (w ++ cs) ds) : ∃ ws rest, Thins w ws ∧ ds = [' '].intercalate ws ++ rest ∧ Spread cs rest := by
  generalize hx : w ++ cs = text at h
  cases h with
  | nil => exact absurd (List.append_eq_nil_iff.mp hx).1 hw.ne_nil
  | blank hb _ =>
    obtain ⟨c, w, rfl⟩ := List.exists_cons_of_ne_nil hw.ne_nil
    obtain ⟨rfl, -⟩ := List.cons_eq_cons.mp hx
    simp [hw.not_blank c (by simp)] at hb
  | @word v ds cs' ws hv hds hws h =>
    -- both cuts of the text are made at its first blank
    obtain rfl : w = v := by
      rw [← Chain.takeWhile_append_of_endsWord hw.not_blank hcs, hx, Chain.takeWhile_append_of_endsWord hv.not_blank hds]
    obtain rfl : cs = ds := List.append_cancel_left hx
    exact ⟨ws, _, hws, rfl, h⟩

theorem Spread.of_runsText {runs : List (List Char × List Char)} {ds : List Char}
    (hsolid : ∀ run ∈ runs, Chain.Solid run.1) (hblank : ∀ run ∈ runs, ∀ c ∈ run.2, Text.isBlank c = true)
    (hne : ∀ run ∈ runs.dropLast, run.2 ≠ []) (h : Spread (runsText runs) ds) :
    ∃ words, List.Forall₂ Thins (runs.map Prod.fst) words ∧
      ds = runsText (List.zipWith (fun run ws => ([' '].intercalate ws, run.2)) runs words) := by
  induction runs generalizing ds with
  | nil =>
    exact ⟨[], .nil, h.eq_nil⟩
  | cons run runs ih =>
    rw [runsText_cons] at h
    obtain ⟨ws, tail, hws, rfl, htail⟩ :=
      h.of_word_append (hsolid run (by simp)) (endsWord_gap (hblank run (by simp)) hne)
    obtain ⟨rest, rfl, hrest⟩ := htail.of_blanks_append (hblank run (by simp))
    have hlater : ∀ r ∈ runs.dropLast, r.2 ≠ [] := by
      intro r hr
      cases runs with
      | nil => simp at hr
      | cons next runs => exact hne r (by rw [List.dropLast_cons_cons]; exact List.mem_cons_of_mem _ hr)
    obtain ⟨words, hwords, rfl⟩ :=
      ih (fun r hr => hsolid r (by simp [hr])) (fun r hr => hblank r (by simp [hr])) hlater hrest
    refine ⟨ws :: words, .cons hws hwords, ?_⟩
    rw [List.zipWith_cons_cons, runsText_cons]

/-- A spread text has the layout of the text that it was. -/
theorem Spread.refill {lay : Layout} {ds : List Char} (h : Spread lay.text ds) :
    ∃ words, List.Forall₂ Thins (lay.runs.map Prod.fst) words ∧ ds = lay.refill words := by
  obtain ⟨rest, rfl, hrest⟩ := h.of_blanks_append lay.lead_blank
  obtain ⟨words, hwords, rfl⟩ := hrest.of_runsText lay.solid lay.gap_blank lay.gap_ne_nil
  exact ⟨words, hwords, rfl⟩

/-! ## Blanks that no writing out brings in -/

/-- A blank other than the space, which is the only blank that is ever written between classes. -/
def isHardBlank (c : Char) : Bool := Text.isBlank c && c != ' '

theorem isHardBlank_of_not_blank {c : Char} (h : Text.isBlank c = false) : isHardBlank c = false := by
  simp [isHardBlank, h]

theorem splitWhere_append_of_none {isSeparator : Char → Bool} {w cs part : List Char} {parts : List (List Char)}
    (hw : ∀ c ∈ w, isSeparator c = false) (hcs : Text.splitWhere isSeparator cs = part :: parts) :
    Text.splitWhere isSeparator (w ++ cs) = (w ++ part) :: parts := by
  induction w with
  | nil => exact hcs
  | cons c w ih =>
    rw [List.cons_append, Text.splitWhere, if_neg (by simp [hw c (by simp)]), ih fun x hx => hw x (by simp [hx])]
    rfl

theorem Thins.not_isHardBlank {w : List Char} {ws : List (List Char)} (h : Thins w ws) :
    ∀ c ∈ [' '].intercalate ws, isHardBlank c = false := by
  intro c hc
  rcases Chain.mem_intercalate hc with rfl | ⟨x, hx, hcx⟩
  · rfl
  · exact isHardBlank_of_not_blank ((h.solid x hx).not_blank c hcx)

/-- Between two blanks that are no spaces, as on a line, a spread text is spread by itself. -/
theorem Spread.forall₂_splitWhere {cs ds : List Char} (h : Spread cs ds) :
    List.Forall₂ Spread (Text.splitWhere isHardBlank cs) (Text.splitWhere isHardBlank ds) := by
  induction h with
  | nil => exact .cons .nil .nil
  | @blank b cs ds hb _ ih =>
    rw [Text.splitWhere, Text.splitWhere]
    split
    · exact .cons .nil ih
    · obtain ⟨part, parts, hparts⟩ := List.exists_cons_of_ne_nil (Text.splitWhere_ne_nil isHardBlank cs)
      obtain ⟨part', parts', hparts'⟩ := List.exists_cons_of_ne_nil (Text.splitWhere_ne_nil isHardBlank ds)
      rw [hparts, hparts'] at ih ⊢
      obtain ⟨hfirst, hrest⟩ := List.forall₂_cons.mp ih
      exact .cons (.blank hb hfirst) hrest
  | @word w cs ds ws hw _ hws _ ih =>
    obtain ⟨part, parts, hparts⟩ := List.exists_cons_of_ne_nil (Text.splitWhere_ne_nil isHardBlank cs)
    obtain ⟨part', parts', hparts'⟩ := List.exists_cons_of_ne_nil (Text.splitWhere_ne_nil isHardBlank ds)
    rw [splitWhere_append_of_none (fun c hc => isHardBlank_of_not_blank (hw.not_blank c hc)) hparts,
      splitWhere_append_of_none hws.not_isHardBlank hparts']
    rw [hparts, hparts'] at ih
    obtain ⟨hfirst, hrest⟩ := List.forall₂_cons.mp ih
    exact .cons (.word_append hw hws hfirst) hrest

/-- The blanks other than spaces stay, in their order. -/
theorem Spread.filter_isHardBlank {cs ds : List Char} (h : Spread cs ds) :
    ds.filter isHardBlank = cs.filter isHardBlank := by
  induction h with
  | nil => rfl
  | blank _ _ ih => rw [List.filter_cons, List.filter_cons, ih]
  | @word w cs ds ws hw _ hws _ ih =>
    have hold : w.filter isHardBlank = [] :=
      List.filter_eq_nil_iff.mpr fun c hc => by simp [isHardBlank_of_not_blank (hw.not_blank c hc)]
    have hnew : ([' '].intercalate ws).filter isHardBlank = [] :=
      List.filter_eq_nil_iff.mpr fun c hc => by simp [hws.not_isHardBlank c hc]
    rw [List.filter_append, List.filter_append, hold, hnew, ih]

/-- Writing a document out keeps its layout: however its blanks and words are told apart, the blanks are as they were, and each
word is now one or more words found in it with a space between them, each with fewer delimiters unless the word stayed. So the
blanks other than spaces are the same, and what stands between two of them is spread by itself. -/
theorem expand_keeps_layout :
    (∀ cs : List Char, ∃ lay : Layout, lay.text = cs) ∧
      ∀ (mode : Mode) (lay : Layout),
        (∃ words, List.Forall₂ Thins (lay.runs.map Prod.fst) words ∧ expand mode lay.text = lay.refill words) ∧
        (expand mode lay.text).filter isHardBlank = lay.text.filter isHardBlank ∧
        List.Forall₂ Spread (Text.splitWhere isHardBlank lay.text) (Text.splitWhere isHardBlank (expand mode lay.text)) := by
  refine ⟨exists_layout, fun mode lay => ?_⟩
  have hspread := spread_expand mode lay.text
  exact ⟨hspread.refill, hspread.filter_isHardBlank, hspread.forall₂_splitWhere⟩

end ClassChain.Document

import ClassChain.Text.Newline
import ClassChain.Proofs.Document.Idempotence
import ClassChain.Proofs.Document.Layout

/-!
# Line ends of a document

A document is read with every line end taken for a newline. Line ends are blank, so this leaves all tokens as they are
(`tokens_unify`), and it does not matter whether line ends are unified before a document is written out or after (`expand_unify`).
Writing out brings in no carriage return and takes none away (`return_mem_expand_iff`).
-/

namespace ClassChain.Document

open Text (unify unify_cons unify_cons_of_ne unify_append_of_not_mem unify_append_cons unify_of_not_mem mem_unify
  exists_of_unify_eq_append)

variable {mode : Mode}

/-! ## Words -/

theorem isBlank_newline_or {c : Char} (hc : Text.isBlank c = true) : Text.isBlank (if c = '\r' then '\n' else c) = true := by
  split
  · rfl
  · exact hc

theorem ne_return_of_not_blank {c : Char} (hc : Text.isBlank c = false) : c ≠ '\r' := by
  rintro rfl
  simp at hc

theorem return_not_mem_of_solid {w : List Char} (hw : Chain.Solid w) : '\r' ∉ w := fun hmem =>
  ne_return_of_not_blank (hw.not_blank _ hmem) rfl

/-- Nor is there a carriage return in what a word is written out to. -/
theorem return_not_mem_written {w : List Char} (hw : Chain.Solid w) : '\r' ∉ Chain.expand w := by
  intro hmem
  rcases Chain.mem_of_mem_expand hmem with heq | hmem
  · exact absurd heq (by decide)
  · exact return_not_mem_of_solid hw hmem

theorem endsWord_unify {cs : List Char} (h : Chain.EndsWord cs) : Chain.EndsWord (unify cs) := by
  induction cs with
  | nil => exact Chain.endsWord_nil
  | cons c cs ih =>
    rw [Chain.endsWord_cons] at h
    rw [unify_cons]
    split
    · rename_i hreturn
      obtain ⟨rest, rfl⟩ := List.head?_eq_some_iff.mp hreturn.2
      exact ih (Chain.endsWord_cons.mpr rfl)
    · exact Chain.endsWord_cons.mpr (isBlank_newline_or h)

/-- The words of a value are the same with unified line ends. -/
theorem words_unify (value : List Char) : Chain.words (unify value) = Chain.words value := by
  induction value using Chain.words_induction with
  | nil => rfl
  | blank c cs hc ih =>
    rw [unify_cons, Chain.words_of_blank hc, ← ih]
    split
    · rfl
    · exact Chain.words_of_blank (isBlank_newline_or hc)
  | word w cs hw hcs ih =>
    rw [unify_append_of_not_mem (return_not_mem_of_solid hw), Chain.words_append_of_solid hw hcs,
      Chain.words_append_of_solid hw (endsWord_unify hcs), ih]

/-- A text and what it is spread to open with the same blank, if with any. -/
theorem Spread.head?_eq_some_iff {cs ds : List Char} {b : Char} (h : Spread cs ds) (hb : Text.isBlank b = true) :
    ds.head? = some b ↔ cs.head? = some b := by
  have hne : ∀ {w : List Char}, Chain.Solid w → ∀ rest, (w ++ rest).head? ≠ some b := by
    intro w hw rest heq
    rw [List.head?_append_of_ne_nil _ hw.ne_nil] at heq
    have hblank := hw.not_blank b (List.mem_of_mem_head? heq)
    simp [hb] at hblank
  cases h with
  | nil => rfl
  | blank _ _ => rfl
  | @word w cs ds ws hw _ hws _ =>
    obtain ⟨v, vs, rfl⟩ := List.exists_cons_of_ne_nil hws.ne_nil
    have hv := hws.solid v (by simp)
    refine iff_of_false ?_ (hne hw cs)
    cases vs with
    | nil => simpa using hne hv ds
    | cons u us =>
      rw [List.intercalate_cons_cons, List.append_assoc, List.append_assoc]
      exact hne hv _

/-- A value can be written out before or after its line ends are unified. -/
theorem expandWords_unify (value : List Char) : Chain.expandWords (unify value) = unify (Chain.expandWords value) := by
  have hhead := fun cs => (spread_expandWords cs).head?_eq_some_iff Text.isBlank_newline
  unfold Chain.expandWords at hhead ⊢
  induction value using Chain.words_induction with
  | nil => rw [Chain.mapWords_nil]; exact Chain.mapWords_nil
  | blank c cs hc ih =>
    rw [unify_cons, Chain.mapWords_of_blank hc, unify_cons]
    simp only [hhead, ← ih]
    split
    · rfl
    · exact Chain.mapWords_of_blank (isBlank_newline_or hc)
  | word w cs hw hcs ih =>
    rw [unify_append_of_not_mem (return_not_mem_of_solid hw), Chain.mapWords_append_of_solid hw (endsWord_unify hcs),
      Chain.mapWords_append_of_solid hw hcs, unify_append_of_not_mem (return_not_mem_written hw), ih]

/-! ## Scans -/

/-- An attribute with the line ends of its value unified. -/
def Attribute.unified (a : Attribute) : Attribute := { a with value := unify a.value }

theorem quote_ne_lineEnd (q : Quote) : q.char ≠ '\r' ∧ q.char ≠ '\n' := by
  cases q <;> decide

theorem quote_mem_unify (q : Quote) (cs : List Char) : q.char ∈ unify cs ↔ q.char ∈ cs :=
  mem_unify (quote_ne_lineEnd q).1 (quote_ne_lineEnd q).2 cs

/-- Line ends are unified apart in the value of an attribute and after it. -/
theorem unify_attribute {a : Attribute} (ha : a.WellFormed) (rest : List Char) :
    unify (a.text ++ rest) = a.unified.text ++ unify rest := by
  have hopening : '\r' ∉ a.name ++ ['=', a.quote.char] := fun hmem =>
    ne_return_of_not_blank (not_blank_of_mem_opening ha.isName a.quote _ hmem) rfl
  have hsplit : a.text ++ rest = (a.name ++ ['=', a.quote.char]) ++ (a.value ++ a.quote.char :: rest) := by
    simp [Attribute.text]
  rw [hsplit, unify_append_of_not_mem hopening, unify_append_cons (quote_ne_lineEnd _).2,
    unify_cons_of_ne (quote_ne_lineEnd _).1]
  simp [Attribute.text, Attribute.unified]

/-- A text opens with the same attribute when its line ends are unified. -/
theorem attribute?_unify {cs rest : List Char} {a : Attribute} (h : attribute? cs = some (a, rest)) :
    attribute? (unify cs) = some (a.unified, unify rest) := by
  obtain ⟨ha, rfl⟩ := attribute?_eq_some_iff.mp h
  have hunified : a.unified.WellFormed :=
    ⟨ha.isName, fun hmem => ha.quote_not_mem ((quote_mem_unify a.quote a.value).mp hmem)⟩
  rw [unify_attribute ha]
  exact attribute?_text hunified _

/-- A text that opens with no attribute opens with none when its line ends are unified. -/
theorem attribute?_unify_eq_none {cs : List Char} (h : attribute? cs = none) : attribute? (unify cs) = none := by
  rw [attribute?_eq_none_iff] at h ⊢
  intro name q tail hname heq hq
  have hopening : '\n' ∉ name ++ ['=', q.char] := fun hmem => by
    have hblank := not_blank_of_mem_opening hname q _ hmem
    simp at hblank
  have hsplit : unify cs = (name ++ ['=', q.char]) ++ tail := by rw [heq]; simp
  obtain ⟨rest, rfl, rfl⟩ := exists_of_unify_eq_append hopening hsplit
  exact h name q rest hname (by simp) ((quote_mem_unify q rest).mp hq)

/-- A gap stays one when line ends are unified, or goes into the next when it is half of a line end. -/
theorem scan_unify_of_gap {c : Char} {rest : List Char} (h : attribute? (c :: rest) = none)
    (hc : mode = .attributesOnly ∨ Text.isBlank c = true) :
    scan mode (unify (c :: rest)) =
      if c = '\r' ∧ rest.head? = some '\n' then scan mode (unify rest)
      else .gap (if c = '\r' then '\n' else c) :: scan mode (unify rest) := by
  have hnone := attribute?_unify_eq_none h
  rw [unify_cons] at hnone ⊢
  split
  · rfl
  · rename_i hcond
    rw [if_neg hcond] at hnone
    exact scan_of_gap hnone (hc.imp_right isBlank_newline_or)

theorem scan_unify_of_bare {c : Char} {rest : List Char} (h : attribute? (c :: rest) = none) (hc : Text.isBlank c = false) :
    scan .everything (unify (c :: rest)) =
      .bare (c :: rest.takeWhile isInk) :: scan .everything (unify (rest.dropWhile isInk)) := by
  have hsolid : Chain.Solid (c :: rest.takeWhile isInk) := solid_of_bare hc
  have hnone := attribute?_unify_eq_none h
  have hsplit : c :: rest = (c :: rest.takeWhile isInk) ++ rest.dropWhile isInk := by
    rw [List.cons_append, List.takeWhile_append_dropWhile]
  rw [hsplit, unify_append_of_not_mem (return_not_mem_of_solid hsolid)] at hnone ⊢
  exact scan_append_of_solid hsolid (endsWord_unify (Chain.endsWord_dropWhile rest)) hnone

/-! ## Documents -/

/-- A document has the same tokens when its line ends are unified. -/
theorem tokens_unify (mode : Mode) (cs : List Char) : tokens mode (unify cs) = tokens mode cs := by
  unfold tokens
  fun_induction scan mode cs with
  | case1 => simp [unify]
  | case2 c rest a after hsome ih =>
    rw [scan_of_attribute (attribute?_unify hsome), List.flatMap_cons, List.flatMap_cons, ih]
    exact congrArg (· ++ _) (words_unify a.value)
  | case3 c rest hnone hc ih =>
    rw [scan_unify_of_gap hnone hc, List.flatMap_cons, ← ih]
    split <;> rfl
  | case4 c rest hnone hc ih =>
    obtain ⟨rfl, hblank⟩ := bare_of_not_gap hc
    rw [scan_unify_of_bare hnone hblank, List.flatMap_cons, List.flatMap_cons, ih]

/-- A document stays as it is when written out exactly when it does so with unified line ends. -/
theorem expand_unify_eq_self_iff {cs : List Char} : expand mode (unify cs) = unify cs ↔ expand mode cs = cs := by
  rw [expand_eq_self_iff, expand_eq_self_iff, tokens_unify]

/-- A document can be written out before or after its line ends are unified. -/
theorem expand_unify (mode : Mode) (cs : List Char) : expand mode (unify cs) = unify (expand mode cs) := by
  fun_induction scan mode cs with
  | case1 => simp [unify]
  | case2 c rest a after hsome ih =>
    have ha := wellFormed_of_attribute? hsome
    have hvalue : a.unified.expand = a.expand.unified := by
      simp only [Attribute.expand, Attribute.unified, expandWords_unify]
    rw [expand_of_attribute (attribute?_unify hsome), expand_of_attribute hsome, unify_attribute ha.expand, ih, hvalue]
  | case3 c rest hnone hc ih =>
    have hhead := (spread_expand mode rest).head?_eq_some_iff Text.isBlank_newline
    rw [expand, scan_unify_of_gap hnone hc, expand_of_gap hnone hc, unify_cons]
    simp only [hhead, ← ih]
    split <;> rfl
  | case4 c rest hnone hc ih =>
    obtain ⟨rfl, hblank⟩ := bare_of_not_gap hc
    rw [expand_of_bare hnone hblank, unify_append_of_not_mem (return_not_mem_written (solid_of_bare hblank)), ← ih, expand,
      scan_unify_of_bare hnone hblank]
    rfl

/-- Writing a document out brings in no carriage return and takes none away. -/
theorem return_mem_expand_iff {cs : List Char} : '\r' ∈ expand mode cs ↔ '\r' ∈ cs := by
  have hmem : ∀ text : List Char, '\r' ∈ text ↔ '\r' ∈ text.filter isHardBlank := fun text => by
    simp [List.mem_filter, show isHardBlank '\r' = true from by decide]
  rw [hmem, (spread_expand mode cs).filter_isHardBlank, ← hmem]

/-! ## Texts -/

/-- A text with its line ends unified. -/
def unified (text : String) : String := String.ofList (unify text.toList)

/-- Unifying line ends changes nothing exactly when no carriage return is there. -/
theorem unified_eq_self_iff {text : String} : unified text = text ↔ '\r' ∉ text.toList := by
  constructor
  · intro h
    rw [← h, unified, String.toList_ofList]
    exact Text.return_not_mem_unify _
  · intro h
    rw [unified, unify_of_not_mem h, String.ofList_toList]

theorem expandText_unified (mode : Mode) (text : String) : expandText mode (unified text) = unified (expandText mode text) := by
  rw [expandText, unified, unified, String.toList_ofList, toList_expandText, expand_unify]

/-- A text stays as it is when written out exactly when it does so with unified line ends. -/
theorem expandText_unified_eq_self_iff {text : String} :
    expandText mode (unified text) = unified text ↔ expandText mode text = text := by
  have hofList : ∀ (cs : List Char) (text : String), String.ofList cs = text ↔ cs = text.toList := fun cs text =>
    ⟨fun h => by rw [← h, String.toList_ofList], fun h => by rw [h, String.ofList_toList]⟩
  rw [expandText, expandText, hofList, hofList, unified, String.toList_ofList]
  exact expand_unify_eq_self_iff

end ClassChain.Document

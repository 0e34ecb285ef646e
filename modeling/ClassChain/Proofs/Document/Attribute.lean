import ClassChain.Document.Expansion
import ClassChain.Proofs.Chain.Token

/-!
# Where a text opens with an attribute

`Attribute.WellFormed` says what an attribute must be to be read back from its own text, and `attribute?_eq_some_iff` that the
reading finds exactly these, whatever follows. Whether a text opens with an attribute depends on the name, the equals sign and the
quotation mark in front of it, and on the mark coming up again: `attribute?_eq_none_iff`. So a text that opens with none still does
when what follows a word is replaced and no new mark comes in (`attribute?_append_eq_none`).
-/

namespace ClassChain.Document

/-- A name that an attribute can have. -/
def IsName (name : List Char) : Prop :=
  ∃ c cs, name = c :: cs ∧ isNameStart c = true ∧ ∀ x ∈ cs, isNameChar x = true

/-- An attribute that is read back as it is written. -/
structure Attribute.WellFormed (a : Attribute) : Prop where
  isName : IsName a.name
  quote_not_mem : a.quote.char ∉ a.value

theorem Attribute.mem_text {a : Attribute} {c : Char} :
    c ∈ a.text ↔ c ∈ a.value ∨ c ∈ a.name ∨ c = '=' ∨ c = a.quote.char := by
  simp only [Attribute.text, List.mem_append, List.mem_cons, List.not_mem_nil, or_false]
  grind

/-! ## Characters -/

theorem isNameChar_of_isNameStart {c : Char} (h : isNameStart c = true) : isNameChar c = true := by
  simp [isNameChar, h]

theorem isNameChar_equals : isNameChar '=' = false := by decide

theorem isNameChar_quote (q : Quote) : isNameChar q.char = false := by
  cases q <;> decide

theorem quote_ne_space (q : Quote) : q.char ≠ ' ' := by
  cases q <;> decide

theorem isBlank_quote (q : Quote) : Text.isBlank q.char = false := by
  cases q <;> decide

theorem isBlank_equals : Text.isBlank '=' = false := by decide

/-- The blanks are twenty-nine characters, none of them a letter, a number or another character of names. -/
theorem isNameChar_of_isBlank {c : Char} (h : Text.isBlank c = true) : isNameChar c = false := by
  have hnat : c.toNat ∈ List.range' 0x9 5 ++ List.range' 0x1C 5 ++ [0x85, 0xA0, 0x1680] ++ List.range' 0x2000 11 ++
      [0x2028, 0x2029, 0x202F, 0x205F, 0x3000] := by
    simp only [Text.isBlank, Bool.or_eq_true, Bool.and_eq_true, decide_eq_true_eq, beq_iff_eq] at h
    simp only [List.mem_append, List.mem_range'_1, List.mem_cons, List.not_mem_nil, or_false]
    omega
  have hall : ∀ n ∈ List.range' 0x9 5 ++ List.range' 0x1C 5 ++ [0x85, 0xA0, 0x1680] ++ List.range' 0x2000 11 ++
      [0x2028, 0x2029, 0x202F, 0x205F, 0x3000], isNameChar (Char.ofNat n) = false := by
    decide +kernel
  have hc := hall c.toNat hnat
  rwa [Char.ofNat_toNat] at hc

/-! ## Reading -/

theorem cutAt_append {mark : Char} {before rest : List Char} (h : mark ∉ before) :
    cutAt mark (before ++ mark :: rest) = some (before, rest) := by
  have hne : ∀ x ∈ before, (x != mark) = true := by
    intro x hx
    rw [bne_iff_ne]
    rintro rfl
    exact h hx
  have hdrop : (before ++ mark :: rest).dropWhile (· != mark) = mark :: rest := by
    rw [List.dropWhile_append_of_pos hne, List.dropWhile_cons_of_neg (by simp)]
  have htake : (before ++ mark :: rest).takeWhile (· != mark) = before := by
    rw [List.takeWhile_append_of_pos hne, List.takeWhile_cons_of_neg (by simp), List.append_nil]
  rw [cutAt, hdrop, htake]

theorem not_mem_of_cutAt {mark : Char} {cs before rest : List Char} (h : cutAt mark cs = some (before, rest)) :
    mark ∉ before := by
  unfold cutAt at h
  split at h
  · simp at h
  · simp only [Option.some.injEq, Prod.mk.injEq] at h
    obtain ⟨rfl, -⟩ := h
    intro hm
    have := List.all_eq_true.mp List.all_takeWhile mark hm
    simp at this

/-- A text with a mark in it is cut there. -/
theorem exists_cutAt {mark : Char} {cs : List Char} (h : mark ∈ cs) : ∃ before rest, cutAt mark cs = some (before, rest) := by
  obtain ⟨before, rest, rfl, hn⟩ := List.eq_append_cons_of_mem h
  exact ⟨before, rest, cutAt_append hn⟩

/-- The reading of a text that opens with a name, an equals sign and a quotation mark. -/
theorem attribute?_opening {name tail : List Char} (hname : IsName name) (q : Quote) :
    attribute? (name ++ '=' :: q.char :: tail) =
      (cutAt q.char tail).map fun cut => (⟨name, q, cut.1⟩, cut.2) := by
  obtain ⟨c, cs, rfl, hc, hcs⟩ := hname
  have hdrop : (cs ++ '=' :: q.char :: tail).dropWhile isNameChar = '=' :: q.char :: tail := by
    rw [List.dropWhile_append_of_pos hcs, List.dropWhile_cons_of_neg (by simp [isNameChar_equals])]
  have htake : (cs ++ '=' :: q.char :: tail).takeWhile isNameChar = cs := by
    rw [List.takeWhile_append_of_pos hcs, List.takeWhile_cons_of_neg (by simp [isNameChar_equals]), List.append_nil]
  rw [List.cons_append, attribute?, if_pos hc, hdrop, htake]
  simp only [Quote.ofChar?_char]
  cases cutAt q.char tail with
  | none => rfl
  | some cut => rfl

/-- An attribute that was read is well-formed. -/
theorem wellFormed_of_attribute? {cs rest : List Char} {a : Attribute} (h : attribute? cs = some (a, rest)) :
    a.WellFormed := by
  cases cs with
  | nil => simp [attribute?] at h
  | cons c cs =>
    simp only [attribute?] at h
    split at h
    · rename_i hc
      split at h
      · split at h
        · rename_i quote value rest' hq hcut
          simp only [Option.some.injEq, Prod.mk.injEq] at h
          obtain ⟨rfl, rfl⟩ := h
          refine ⟨⟨c, _, rfl, hc, fun x hx => List.all_eq_true.mp List.all_takeWhile x hx⟩, ?_⟩
          rw [Quote.char_of_ofChar? hq]
          exact not_mem_of_cutAt hcut
        · simp at h
      · simp at h
    · simp at h

theorem attribute?_text {a : Attribute} (h : a.WellFormed) (rest : List Char) :
    attribute? (a.text ++ rest) = some (a, rest) := by
  have htext : a.text ++ rest = a.name ++ '=' :: a.quote.char :: (a.value ++ a.quote.char :: rest) := by
    simp [Attribute.text]
  rw [htext, attribute?_opening h.isName, cutAt_append h.quote_not_mem]
  rfl

/-- A text opens with an attribute exactly when it is a well-formed one with anything after it. -/
theorem attribute?_eq_some_iff {cs rest : List Char} {a : Attribute} :
    attribute? cs = some (a, rest) ↔ a.WellFormed ∧ a.text ++ rest = cs := by
  constructor
  · intro h
    exact ⟨wellFormed_of_attribute? h, append_of_attribute? h⟩
  · rintro ⟨ha, rfl⟩
    exact attribute?_text ha rest

/-- A text opens with no attribute exactly when the mark after every name and equals sign in front of it never comes up again. -/
theorem attribute?_eq_none_iff {cs : List Char} :
    attribute? cs = none ↔
      ∀ (name : List Char) (q : Quote) (tail : List Char), IsName name → cs = name ++ '=' :: q.char :: tail → q.char ∉ tail := by
  constructor
  · rintro h name q tail hname rfl hq
    obtain ⟨before, rest, hcut⟩ := exists_cutAt hq
    rw [attribute?_opening hname, hcut] at h
    simp at h
  · intro h
    cases hsome : attribute? cs with
    | none => rfl
    | some found =>
      obtain ⟨a, rest⟩ := found
      obtain ⟨ha, rfl⟩ := attribute?_eq_some_iff.mp hsome
      refine absurd ?_ (h a.name a.quote (a.value ++ a.quote.char :: rest) ha.isName (by simp [Attribute.text]))
      simp

theorem attribute?_of_blank {c : Char} {cs : List Char} (hc : Text.isBlank c = true) : attribute? (c :: cs) = none := by
  have hstart : ¬ isNameStart c = true := by
    intro h
    have := isNameChar_of_isNameStart h
    rw [isNameChar_of_isBlank hc] at this
    simp at this
  rw [attribute?, if_neg hstart]

/-! ## What follows is replaced -/

/-- The characters of a name, an equals sign and a mark are no blanks. -/
theorem not_blank_of_mem_opening {name : List Char} (hname : IsName name) (q : Quote) :
    ∀ c ∈ name ++ ['=', q.char], Text.isBlank c = false := by
  obtain ⟨first, others, rfl, hfirst, hothers⟩ := hname
  have hchar : ∀ c, isNameChar c = true → Text.isBlank c = false := by
    intro c hc
    cases hb : Text.isBlank c with
    | false => rfl
    | true => rw [isNameChar_of_isBlank hb] at hc; simp at hc
  intro c hc
  simp only [List.cons_append, List.mem_cons, List.mem_append, List.not_mem_nil, or_false] at hc
  rcases hc with rfl | hc | rfl | rfl
  · exact hchar c (isNameChar_of_isNameStart hfirst)
  · exact hchar c (hothers c hc)
  · exact isBlank_equals
  · exact isBlank_quote q

/-- Where the end of a text is replaced and brings in no mark that was not there, an attribute that the text now opens with, and did
not before, has part of its opening in the new end. -/
theorem opening_reaches {before cs ds name tail : List Char} {q : Quote} (h : attribute? (before ++ cs) = none)
    (hmem : ∀ q : Quote, q.char ∈ ds → q.char ∈ cs) (hname : IsName name) (heq : before ++ ds = name ++ '=' :: q.char :: tail)
    (hq : q.char ∈ tail) : ∃ c more, name ++ ['=', q.char] = before ++ c :: more ∧ ds = c :: (more ++ tail) := by
  rw [attribute?_eq_none_iff] at h
  have hsplit : before ++ ds = (name ++ ['=', q.char]) ++ tail := by rw [heq]; simp
  rcases List.append_eq_append_iff.mp hsplit with ⟨more, hopening, hds⟩ | ⟨more, hbefore, htail⟩
  · cases more with
    | nil =>
      -- the opening is all of `before`, so the mark comes up again in the end that was replaced
      rw [List.append_nil] at hopening
      rw [List.nil_append] at hds
      subst hds
      exact absurd (hmem q hq) (h name q cs hname (by rw [← hopening]; simp))
    | cons c more => exact ⟨c, more, hopening, hds⟩
  · refine absurd ?_ (h name q (more ++ cs) hname (by rw [hbefore]; simp))
    rw [htail, List.mem_append] at hq
    rcases hq with hq | hq
    · exact List.mem_append_left _ hq
    · exact List.mem_append_right _ (hmem q hq)

/-- A text that opens with no attribute does not open with one when its end is replaced by a text that ends a word and has no mark
that the old end had not. -/
theorem attribute?_append_eq_none {before cs ds : List Char} (h : attribute? (before ++ cs) = none) (hend : Chain.EndsWord ds)
    (hmem : ∀ q : Quote, q.char ∈ ds → q.char ∈ cs) : attribute? (before ++ ds) = none := by
  rw [attribute?_eq_none_iff]
  intro name q tail hname heq hq
  obtain ⟨c, more, hopening, hds⟩ := opening_reaches h hmem hname heq hq
  rw [hds, Chain.endsWord_cons, not_blank_of_mem_opening hname q c (by rw [hopening]; simp)] at hend
  simp at hend

/-- A word without a quotation mark opens no attribute. -/
theorem attribute?_of_no_quote {w cs : List Char} (hw : ∀ q : Quote, q.char ∉ w) (hcs : Chain.EndsWord cs) :
    attribute? (w ++ cs) = none := by
  rw [attribute?_eq_none_iff]
  intro name q tail hname heq _
  have hsplit : w ++ cs = (name ++ ['=', q.char]) ++ tail := by rw [heq]; simp
  rcases List.append_eq_append_iff.mp hsplit with ⟨more, hopening, hends⟩ | ⟨more, hword, -⟩
  · cases more with
    | nil =>
      rw [List.append_nil] at hopening
      exact hw q (by rw [← hopening]; simp)
    | cons c more =>
      rw [hends, List.cons_append, Chain.endsWord_cons,
        not_blank_of_mem_opening hname q c (by rw [hopening]; simp)] at hcs
      simp at hcs
  · exact hw q (by rw [hword]; simp)

/-- What stands in a name before one of its characters, with another name after it, is a name. -/
theorem IsName.replace {before more name : List Char} {c : Char} (h : IsName (before ++ c :: more)) (hname : IsName name) :
    IsName (before ++ name) := by
  cases before with
  | nil => exact hname
  | cons b before =>
    obtain ⟨first, others, heq, hfirst, hothers⟩ := h
    obtain ⟨c', cs, rfl, hc, hcs⟩ := hname
    simp only [List.cons_append, List.cons.injEq] at heq
    obtain ⟨rfl, rfl⟩ := heq
    refine ⟨b, before ++ c' :: cs, rfl, hfirst, ?_⟩
    intro x hx
    simp only [List.mem_append, List.mem_cons] at hx
    rcases hx with hx | rfl | hx
    · exact hothers x (by simp [hx])
    · exact isNameChar_of_isNameStart hc
    · exact hcs x hx

/-- Of the characters of an opening, those of names stand in its name. -/
theorem name_of_opening {name before more : List Char} {c : Char} {q : Quote} (hc : isNameChar c = true)
    (h : name ++ ['=', q.char] = before ++ c :: more) : ∃ rest, name = before ++ c :: rest := by
  have hne : ∀ x ∈ ['=', q.char], x ≠ c := by
    rintro x hx rfl
    simp only [List.mem_cons, List.not_mem_nil, or_false] at hx
    rcases hx with rfl | rfl
    · simp [isNameChar_equals] at hc
    · simp [isNameChar_quote] at hc
  rcases List.append_eq_append_iff.mp h with ⟨rest, -, hrest⟩ | ⟨rest, hname, hrest⟩
  · exact absurd rfl (hne c (by rw [hrest]; simp))
  · cases rest with
    | nil =>
      rw [List.nil_append, List.cons.injEq] at hrest
      exact absurd hrest.1.symm (hne '=' (by simp))
    | cons c' rest =>
      rw [List.cons_append, List.cons.injEq] at hrest
      exact ⟨rest, by rw [hname, hrest.1]⟩

/-- A text that opens with no attribute, with one further on, does not open with one when the value further on is replaced by one
without its mark and what follows is replaced too, and no mark comes in that was not there. -/
theorem attribute?_append_attribute {before after after' value : List Char} {a : Attribute} (ha : a.WellFormed)
    (h : attribute? (before ++ (a.text ++ after)) = none)
    (hmem : ∀ q : Quote, q.char ∈ { a with value := value }.text ++ after' → q.char ∈ a.text ++ after) :
    attribute? (before ++ ({ a with value := value }.text ++ after')) = none := by
  rw [attribute?_eq_none_iff]
  intro name q tail hname heq hq
  obtain ⟨c, more, hopening, hds⟩ := opening_reaches h hmem hname heq hq
  obtain ⟨first, others, hfirst, hstart, -⟩ := ha.isName
  have hc : isNameChar c = true := by
    rw [Attribute.text, hfirst] at hds
    simp only [List.cons_append, List.cons.injEq] at hds
    rw [← hds.1]
    exact isNameChar_of_isNameStart hstart
  -- the opening reaches into the name of `a`, so all of `before` could open a name that ends as the name of `a` does
  obtain ⟨rest, rfl⟩ := name_of_opening hc hopening
  have hclosing := attribute?_eq_none_iff.mp h (before ++ a.name) a.quote (a.value ++ a.quote.char :: after)
    (hname.replace ha.isName) (by simp [Attribute.text])
  exact hclosing (by simp)

end ClassChain.Document

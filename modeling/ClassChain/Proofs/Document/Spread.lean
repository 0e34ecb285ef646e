import ClassChain.Proofs.Document.Rescan

/-!
# How a document spreads

The pieces of a document do not respect its words: a value reaches over many of them, and one word can hold the end of an attribute,
others after it, and a bare tail. What writing out does to the words is therefore said of texts and not of pieces. `Spread cs ds`
says that `ds` is `cs` with each word replaced by one or more words with a space between them, and every blank as it was;
`Thins` says what these words can be: the word itself, or words found in it that each have fewer delimiters.

`Spread.append` puts two such texts together, also where a word goes on from one into the other. So it is enough to look at each
piece alone: `spread_expand`.
-/

namespace ClassChain.Document

open Chain (delimiter)

/-- The words that a word can be replaced by: each is found in it, and unless the word stays each has fewer delimiters. -/
structure Thins (word : List Char) (words : List (List Char)) : Prop where
  ne_nil : words ≠ []
  solid : ∀ w ∈ words, Chain.Solid w
  sublist : ∀ w ∈ words, w.Sublist word
  fewer : words = [word] ∨ ∀ w ∈ words, w.count delimiter < word.count delimiter

/-- A text with each of its words replaced, and its blanks as they were. -/
inductive Spread : List Char → List Char → Prop where
  | nil : Spread [] []
  | blank {b : Char} {cs ds : List Char} : Text.isBlank b = true → Spread cs ds → Spread (b :: cs) (b :: ds)
  | word {w cs ds : List Char} {ws : List (List Char)} : Chain.Solid w → Chain.EndsWord cs → Thins w ws → Spread cs ds →
      Spread (w ++ cs) ([' '].intercalate ws ++ ds)

/-! ## Words -/

theorem Thins.refl {w : List Char} (hw : Chain.Solid w) : Thins w [w] where
  ne_nil := by simp
  solid := by simpa using hw
  sublist := by simp
  fewer := Or.inl rfl

/-- The words of a word that goes on in another: the last of the first goes on in the first of the other. -/
theorem Thins.append {v w last first : List Char} {front back : List (List Char)} (hv : Thins v (front ++ [last]))
    (hw : Thins w (first :: back)) : Thins (v ++ w) (front ++ (last ++ first) :: back) where
  ne_nil := by simp
  solid := by
    intro x hx
    rcases List.mem_append.mp hx with hx | hx
    · exact hv.solid x (by simp [hx])
    · rcases List.mem_cons.mp hx with rfl | hx
      · exact (hv.solid last (by simp)).append (hw.solid first (by simp))
      · exact hw.solid x (by simp [hx])
  sublist := by
    intro x hx
    rcases List.mem_append.mp hx with hx | hx
    · exact (hv.sublist x (by simp [hx])).trans (List.sublist_append_left v w)
    · rcases List.mem_cons.mp hx with rfl | hx
      · exact (hv.sublist last (by simp)).append (hw.sublist first (by simp))
      · exact (hw.sublist x (by simp [hx])).trans (List.sublist_append_right v w)
  fewer := by
    -- the glued word loses a delimiter as soon as either of its halves does, and the other words lie in one half
    have hlast := (hv.sublist last (by simp)).count_le delimiter
    have hfirst := (hw.sublist first (by simp)).count_le delimiter
    rcases hv.fewer with hsame | hfewer
    · obtain ⟨rfl, rfl⟩ : front = [] ∧ last = v := by simpa [List.append_eq_singleton_iff] using hsame
      rcases hw.fewer with hsame' | hfewer'
      · obtain ⟨rfl, rfl⟩ : first = w ∧ back = [] := by simpa using hsame'
        exact Or.inl rfl
      · refine Or.inr fun x hx => ?_
        rw [List.count_append]
        rcases List.mem_cons.mp hx with rfl | hx
        · have := hfewer' first (by simp)
          rw [List.count_append]
          omega
        · have := hfewer' x (by simp [hx])
          omega
    · refine Or.inr fun x hx => ?_
      rw [List.count_append]
      rcases List.mem_append.mp hx with hx | hx
      · have := hfewer x (by simp [hx])
        omega
      · have hless := hfewer last (by simp)
        rcases List.mem_cons.mp hx with rfl | hx
        · rw [List.count_append]
          omega
        · have := (hw.sublist x (by simp [hx])).count_le delimiter
          omega

/-- The classes of a word. -/
theorem thins_classes {token : List Char} (ht : Chain.Solid token) : Thins token (Chain.classes token) where
  ne_nil := Chain.classes_ne_nil token
  solid := Chain.solid_of_mem_classes ht
  sublist := fun _ hc => Chain.sublist_of_mem_classes hc
  fewer := by
    by_cases hchain : Chain.IsChain token
    · refine Or.inr fun c hc => ?_
      rw [Chain.classes_of_lead hchain.1, List.mem_map] at hc
      obtain ⟨part, hpart, rfl⟩ := hc
      have hlt := Chain.count_lt_of_mem_split hchain.2 hpart
      have htoken : token.count delimiter =
          (Chain.read token).lead.count delimiter + (Chain.read token).rest.count delimiter := by
        rw [← List.count_append, Chain.lead_append_rest]
      rw [List.count_append]
      omega
    · exact Or.inl (Chain.classes_of_not_isChain hchain)

/-! ## Texts -/

theorem intercalate_append_intercalate (front back : List (List Char)) (last first : List Char) :
    [' '].intercalate (front ++ [last]) ++ [' '].intercalate (first :: back) =
      [' '].intercalate (front ++ (last ++ first) :: back) := by
  induction front with
  | nil =>
    cases back with
    | nil => simp
    | cons next back => simp [List.intercalate_cons_cons]
  | cons w front ih =>
    have hleft : front ++ [last] ≠ [] := by simp
    have hright : front ++ (last ++ first) :: back ≠ [] := by simp
    rw [List.cons_append, List.cons_append, List.intercalate_cons_of_ne_nil hleft, List.intercalate_cons_of_ne_nil hright,
      List.append_assoc, ih]

/-- A word in front of a text: it goes on in the first word of the text, if the text opens with one. -/
theorem Spread.word_append {w cs ds : List Char} {ws : List (List Char)} (hw : Chain.Solid w) (hws : Thins w ws)
    (h : Spread cs ds) : Spread (w ++ cs) ([' '].intercalate ws ++ ds) := by
  cases h with
  | nil => exact .word hw Chain.endsWord_nil hws .nil
  | blank hb h => exact .word hw (Chain.endsWord_cons.mpr hb) hws (.blank hb h)
  | @word v cs ds vs hv hcs hvs h =>
    obtain ⟨front, last, rfl⟩ : ∃ front last, ws = front ++ [last] :=
      ⟨_, _, (List.dropLast_concat_getLast hws.ne_nil).symm⟩
    obtain ⟨first, back, rfl⟩ := List.exists_cons_of_ne_nil hvs.ne_nil
    have hspread := Spread.word (hw.append hv) hcs (hws.append hvs) h
    rwa [← intercalate_append_intercalate, List.append_assoc, List.append_assoc] at hspread

/-- Two texts one after the other, also where a word goes on from the first into the second. -/
theorem Spread.append {cs ds cs' ds' : List Char} (h : Spread cs ds) (h' : Spread cs' ds') :
    Spread (cs ++ cs') (ds ++ ds') := by
  induction h with
  | nil => exact h'
  | blank hb _ ih => exact .blank hb ih
  | word hw _ hws _ ih =>
    rw [List.append_assoc, List.append_assoc]
    exact .word_append hw hws ih

theorem Spread.refl (cs : List Char) : Spread cs cs := by
  induction cs using Chain.words_induction with
  | nil => exact .nil
  | blank c cs hc ih => exact .blank hc ih
  | word w cs hw hcs ih =>
    have hspread := Spread.word hw hcs (Thins.refl hw) ih
    rwa [List.intercalate_singleton] at hspread

/-! ## Documents -/

theorem spread_expandWords (value : List Char) : Spread value (Chain.expandWords value) := by
  unfold Chain.expandWords
  induction value using Chain.words_induction with
  | nil => rw [Chain.mapWords_nil]; exact .nil
  | blank c cs hc ih => rw [Chain.mapWords_of_blank hc]; exact .blank hc ih
  | word w cs hw hcs ih =>
    rw [Chain.mapWords_append_of_solid hw hcs]
    exact .word hw hcs (thins_classes hw) ih

theorem spread_attribute (a : Attribute) : Spread a.text a.expand.text := by
  have hopening := Spread.refl (a.name ++ ['=', a.quote.char])
  have hclosing := Spread.refl [a.quote.char]
  have hspread := hopening.append ((spread_expandWords a.value).append hclosing)
  simpa [Attribute.text, Attribute.expand] using hspread

/-- Writing a document out keeps its blanks and replaces each of its words by words found in it, with a space between them; unless the
word stays each of these has fewer delimiters. -/
theorem spread_expand (mode : Mode) (cs : List Char) : Spread cs (expand mode cs) := by
  fun_induction scan mode cs with
  | case1 => rw [expand_nil]; exact .nil
  | case2 c rest a after hsome ih =>
    rw [expand_of_attribute hsome, ← append_of_attribute? hsome]
    exact (spread_attribute a).append ih
  | case3 c rest hnone hc ih =>
    rw [expand_of_gap hnone hc]
    exact (Spread.refl [c]).append ih
  | case4 c rest hnone hc ih =>
    obtain ⟨rfl, hblank⟩ := bare_of_not_gap hc
    have hsolid : Chain.Solid (c :: rest.takeWhile isInk) := solid_of_bare hblank
    have hsplit : c :: rest = (c :: rest.takeWhile isInk) ++ rest.dropWhile isInk := by
      rw [List.cons_append, List.takeWhile_append_dropWhile]
    rw [expand_of_bare hnone hblank, hsplit]
    exact .word_append hsolid (thins_classes hsolid) ih

end ClassChain.Document

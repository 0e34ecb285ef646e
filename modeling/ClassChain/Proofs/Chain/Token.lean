import ClassChain.Proofs.Chain.Split
import ClassChain.Proofs.Chain.Variant
import ClassChain.Proofs.Chain.Word

/-!
# Tokens and the classes they stand for

`IsChain` names the tokens that are written out as something else: those with variants and a delimiter that counts after them.
Writing a token out makes it longer by its lead for each such delimiter (`length_expand`), so a token that is no chain is the only
one that stays (`expand_eq_self_iff`), and in a value no growth can make up for another (`expandWords_eq_self_iff`).

A class of a token is again a chain exactly when its part has one after variants of its own (`isChain_lead_append`), which needs a
bracket that closes early: `not_isChain_of_mem_classes`.
-/

namespace ClassChain.Chain

/-- A token is a chain: it has variants, and a delimiter outside every bracket group after them. -/
def IsChain (token : List Char) : Prop := (read token).lead ≠ [] ∧ contains (read token).rest = true

instance : DecidablePred IsChain := fun token =>
  inferInstanceAs (Decidable ((read token).lead ≠ [] ∧ contains (read token).rest = true))

/-- How much longer a token is when it is written out: its lead for each class after the first. -/
def growth (token : List Char) : Nat := (read token).lead.length * ((split (read token).rest).length - 1)

/-! ## Classes -/

theorem classes_of_lead {token : List Char} (h : (read token).lead ≠ []) :
    classes token = (split (read token).rest).map ((read token).lead ++ ·) := by
  rw [classes, if_neg h]

/-- A token that is no chain is one class, itself. -/
theorem classes_of_not_isChain {token : List Char} (h : ¬ IsChain token) : classes token = [token] := by
  by_cases hlead : (read token).lead = []
  · exact classes_of_lead_nil hlead
  · exact classes_of_not_contains (Bool.eq_false_iff.mpr fun hc => h ⟨hlead, hc⟩)

/-- Every class of a token is the token with some of it left out. -/
theorem sublist_of_mem_classes {token c : List Char} (h : c ∈ classes token) : c.Sublist token := by
  by_cases hlead : (read token).lead = []
  · rw [classes_of_lead_nil hlead, List.mem_singleton] at h
    subst h
    exact List.Sublist.refl c
  · rw [classes_of_lead hlead, List.mem_map] at h
    obtain ⟨part, hpart, rfl⟩ := h
    have hsub := (List.append_sublist_append_left (read token).lead).mpr (sublist_of_mem_split hpart)
    rwa [lead_append_rest] at hsub

theorem ne_nil_of_mem_classes {token c : List Char} (ht : token ≠ []) (h : c ∈ classes token) : c ≠ [] := by
  by_cases hlead : (read token).lead = []
  · rw [classes_of_lead_nil hlead, List.mem_singleton] at h
    rwa [h]
  · rw [classes_of_lead hlead, List.mem_map] at h
    obtain ⟨part, -, rfl⟩ := h
    simp [hlead]

/-- The classes of a word are words. -/
theorem solid_of_mem_classes {token : List Char} (ht : Solid token) : ∀ c ∈ classes token, Solid c := by
  intro c hc
  exact ⟨ne_nil_of_mem_classes ht.ne_nil hc, fun x hx => ht.not_blank x ((sublist_of_mem_classes hc).subset hx)⟩

/-! ## Growth -/

/-- A token is a chain exactly when it has variants and some delimiter of its rest counts. -/
theorem isChain_iff {token : List Char} : IsChain token ↔ (read token).lead ≠ [] ∧ ∃ i, Counts (read token).rest i := by
  rw [IsChain, contains_iff_counts]

/-- A token grows by its lead for each delimiter of its rest that counts. -/
theorem growth_eq (token : List Char) : growth token = (read token).lead.length * delimiters (read token).rest := by
  rw [growth, length_split, Nat.add_sub_cancel]

theorem growth_eq_zero_iff {token : List Char} : growth token = 0 ↔ ¬ IsChain token := by
  rw [growth_eq, Nat.mul_eq_zero, List.length_eq_zero_iff, IsChain, contains_iff_delimiters, Nat.pos_iff_ne_zero]
  exact Decidable.or_iff_not_not_and_not

/-- Where tokens do not grow together, none of them is a chain. -/
theorem sum_growth_eq_zero_iff {ws : List (List Char)} : (ws.map growth).sum = 0 ↔ ∀ w ∈ ws, ¬ IsChain w := by
  rw [List.sum_eq_zero_iff_forall_eq_nat]
  simp only [List.forall_mem_map, growth_eq_zero_iff]

/-- Texts joined with a single character between them, each with the same text in front. -/
theorem length_intercalate_map (before : List Char) (mark other : Char) {parts : List (List Char)} (h : parts ≠ []) :
    ([mark].intercalate (parts.map (before ++ ·))).length =
      ([other].intercalate parts).length + before.length * parts.length := by
  induction parts with
  | nil => exact absurd rfl h
  | cons part parts ih =>
    cases parts with
    | nil => simp [Nat.add_comm]
    | cons next parts =>
      have hrest := ih (by simp)
      simp only [List.map_cons, List.intercalate_cons_cons, List.length_append, List.length_cons, List.length_nil] at hrest ⊢
      rw [Nat.mul_succ]
      omega

/-- Writing a token out makes it longer by its growth. -/
theorem length_expand (token : List Char) : (expand token).length = token.length + growth token := by
  by_cases hlead : (read token).lead = []
  · have hzero : growth token = 0 := growth_eq_zero_iff.mpr fun h => h.1 hlead
    rw [hzero, expand_of_classes (classes_of_lead_nil hlead), Nat.add_zero]
  · have htoken : token.length = (read token).lead.length + (read token).rest.length := by
      rw [← List.length_append, lead_append_rest]
    have hparts := length_intercalate_map (read token).lead ' ' delimiter (split_ne_nil (read token).rest)
    rw [expand, classes_of_lead hlead, hparts, join_split, htoken, growth_eq, length_split, Nat.mul_succ]
    omega

/-- A token stays as it is exactly when it is no chain. -/
theorem expand_eq_self_iff {token : List Char} : expand token = token ↔ ¬ IsChain token := by
  constructor
  · intro h
    have hlen := length_expand token
    rw [h] at hlen
    exact growth_eq_zero_iff.mp (by omega)
  · intro h
    exact expand_of_classes (classes_of_not_isChain h)

/-! ## Values -/

/-- The words of a value written out are the classes of its words. -/
theorem words_expandWords (value : List Char) : words (expandWords value) = (words value).flatMap classes :=
  words_mapWords (fun _ => rfl) classes_ne_nil (fun _ hw => solid_of_mem_classes hw) value

theorem length_expandWords (value : List Char) :
    (expandWords value).length = value.length + ((words value).map growth).sum :=
  length_mapWords length_expand value

/-- A value stays as it is exactly when none of its words is a chain. -/
theorem expandWords_eq_self_iff {value : List Char} : expandWords value = value ↔ ∀ w ∈ words value, ¬ IsChain w := by
  constructor
  · intro h
    have hlen := length_expandWords value
    rw [h] at hlen
    exact sum_growth_eq_zero_iff.mp (by omega)
  · intro h
    exact mapWords_of_fixed fun w hw => expand_eq_self_iff.mpr (h w hw)

theorem mem_intercalate {ws : List (List Char)} {mark c : Char} (h : c ∈ [mark].intercalate ws) :
    c = mark ∨ ∃ w ∈ ws, c ∈ w := by
  induction ws with
  | nil => simp at h
  | cons w ws ih =>
    cases ws with
    | nil => exact Or.inr ⟨w, by simp, by simpa using h⟩
    | cons v vs =>
      rw [List.intercalate_cons_cons, List.mem_append, List.mem_append, List.mem_singleton] at h
      rcases h with (h | h) | h
      · exact Or.inr ⟨w, by simp, h⟩
      · exact Or.inl h
      · rcases ih h with h | ⟨x, hx, hc⟩
        · exact Or.inl h
        · exact Or.inr ⟨x, List.mem_cons_of_mem _ hx, hc⟩

/-- Writing a token out brings in no character but the space. -/
theorem mem_of_mem_expand {token : List Char} {c : Char} (h : c ∈ expand token) : c = ' ' ∨ c ∈ token := by
  rcases mem_intercalate h with h | ⟨w, hw, hc⟩
  · exact Or.inl h
  · exact Or.inr ((sublist_of_mem_classes hw).subset hc)

theorem mem_of_mem_expandWords {value : List Char} {c : Char} (h : c ∈ expandWords value) : c = ' ' ∨ c ∈ value := by
  unfold expandWords at h
  induction value using words_induction with
  | nil => simp at h
  | blank b cs hb ih =>
    rw [mapWords_of_blank hb, List.mem_cons] at h
    rcases h with rfl | h
    · exact Or.inr List.mem_cons_self
    · exact (ih h).imp_right (List.mem_cons_of_mem _)
  | word w cs hw hcs ih =>
    rw [mapWords_append_of_solid hw hcs, List.mem_append] at h
    rcases h with h | h
    · exact (mem_of_mem_expand h).imp_right (List.mem_append_left _)
    · exact (ih h).imp_right (List.mem_append_right _)

/-! ## Classes that are chains themselves -/

/-- A part behind a lead is a chain exactly when a delimiter counts after variants of its own. -/
theorem isChain_lead_append {token : List Char} (h : (read token).lead ≠ []) (part : List Char) :
    IsChain ((read token).lead ++ part) ↔ contains (read part).rest = true := by
  have hlead : (read ((read token).lead ++ part)).lead = (read token).lead ++ (read part).lead := by
    rw [read_lead_append]
    simp [Reading.lead]
  rw [IsChain, hlead, read_lead_append]
  simp [h]

/-- Some class of a token is a chain exactly when the token is one and so is a part of it behind its variants. -/
theorem classes_not_isChain_iff {token : List Char} :
    (∀ c ∈ classes token, ¬ IsChain c) ↔
      (IsChain token → ∀ part ∈ split (read token).rest, contains (read part).rest = false) := by
  by_cases hchain : IsChain token
  · rw [classes_of_lead hchain.1]
    simp [isChain_lead_append hchain.1, hchain]
  · rw [classes_of_not_isChain hchain]
    simp [hchain]

/-- Where no bracket closes early, no part has a delimiter that counts after variants of its own. -/
theorem contains_rest_of_mem_split {token part : List Char} (hn : NeverBelow 0 token)
    (h : part ∈ split (read token).rest) : contains (read part).rest = false := by
  rw [← lead_append_rest token] at hn
  obtain ⟨hlead, hrest⟩ := neverBelow_append.mp hn
  rw [depthOf_lead hlead] at hrest
  have hpart : NeverBelow 0 ((read part).lead ++ (read part).rest) := by
    rw [lead_append_rest]
    exact neverBelow_of_mem_split hrest h
  -- the variants of the part lead back to depth zero, so a delimiter counts after them exactly when it does in the part
  have hcontains := contains_of_mem_split h
  rw [← lead_append_rest part, contains, containsFrom_append, depthOf_lead (neverBelow_append.mp hpart).1,
    Bool.or_eq_false_iff] at hcontains
  exact hcontains.2

/-- Where no bracket closes early, the classes of a token are no chains. -/
theorem not_isChain_of_mem_classes {token : List Char} (hn : NeverBelow 0 token) : ∀ c ∈ classes token, ¬ IsChain c :=
  classes_not_isChain_iff.mpr fun _ _ hpart => contains_rest_of_mem_split hn hpart

end ClassChain.Chain

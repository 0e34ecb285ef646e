import ClassChain.Proofs.Chain.Split
import ClassChain.Proofs.Chain.Variant

/-!
# The grammar of a lead

A lead is a row of segments with a separator after each; a segment is a run of characters other than the separator, the delimiter
and the bracket that opens, or a bracket group up to where its depth first comes back to zero. `IsSegment` and `IsLead` say this
without the reading, and `isVariant_iff` that the variants are the segments with their separators.

The reading takes one variant after another and never goes back. Nothing is missed by that, since a text opens with one variant at
most: a token that begins with a lead is read as its variants first (`read_append_of_isLead`), and so the lead that is read is the
longest that the token begins with (`lead_longest`).
-/

namespace ClassChain.Chain

/-- A bracket group: it begins with a bracket that opens, and it is level with its last character for the first time. -/
structure IsGroup (cs : List Char) : Prop where
  opens : [openBracket] <+: cs
  level : IsLevel cs
  eq_of_level : ∀ before, before <+: cs → before ≠ [] → IsLevel before → before = cs

/-- What may stand before a separator in a lead. -/
inductive IsSegment : List Char → Prop where
  /-- A run of characters that mean nothing in a lead, perhaps an empty one. -/
  | plain {segment : List Char} : separator ∉ segment → openBracket ∉ segment → delimiter ∉ segment → IsSegment segment
  /-- A bracket group, whatever stands inside. -/
  | group {segment : List Char} : IsGroup segment → IsSegment segment

/-- A row of segments with a separator after each. -/
inductive IsLead : List Char → Prop where
  | nil : IsLead []
  | cons {segment lead : List Char} : IsSegment segment → IsLead lead → IsLead (segment ++ separator :: lead)

/-! ## Segments and variants -/

/-- A text closes a group of some depth exactly when it leads from that depth to zero, and no part before its end does. -/
theorem closesGroup_iff {depth : Nat} {cs : List Char} :
    ClosesGroup depth cs ↔
      depthOf depth cs = 0 ∧ ∀ before, before <+: cs → depthOf depth before = 0 → before = cs := by
  induction cs generalizing depth with
  | nil =>
    cases depth with
    | zero => simp [ClosesGroup]
    | succ depth =>
      simp only [ClosesGroup, depthOf_nil, false_iff, not_and]
      omega
  | cons c cs ih =>
    cases depth with
    | zero =>
      simp only [ClosesGroup, reduceCtorEq, false_iff, not_and]
      intro _ h
      exact absurd (h [] List.nil_prefix rfl) (by simp)
    | succ depth =>
      have hstep : depthAfter ↑(depth + 1) c =
          ↑(if c = openBracket then depth + 2 else if c = closeBracket then depth else depth + 1) := by
        simpa using depthAfter_add_succ 0 depth c
      rw [ClosesGroup, ih, depthOf_cons, hstep]
      refine and_congr_right fun _ => ⟨?_, ?_⟩
      · intro h before hbefore hzero
        rcases List.prefix_cons_iff.mp hbefore with rfl | ⟨more, rfl, hmore⟩
        · rw [depthOf_nil] at hzero
          omega
        · rw [depthOf_cons, hstep] at hzero
          rw [h more hmore hzero]
      · intro h more hmore hzero
        rw [← hstep] at hzero
        exact List.tail_eq_of_cons_eq (h (c :: more) ((List.prefix_cons_inj c).mpr hmore) hzero)

theorem isGroup_iff {cs : List Char} : IsGroup cs ↔ ∃ inside, cs = openBracket :: inside ∧ ClosesGroup 1 inside := by
  have hlevel : ∀ inside, IsLevel (openBracket :: inside) ↔ depthOf (1 : Nat) inside = 0 := fun inside => isLevel_iff
  constructor
  · rintro ⟨⟨inside, rfl⟩, hend, hfirst⟩
    refine ⟨inside, rfl, closesGroup_iff.mpr ⟨(hlevel inside).mp hend, fun before hbefore hzero => ?_⟩⟩
    have heq := hfirst (openBracket :: before) ((List.prefix_cons_inj openBracket).mpr hbefore) (by simp)
      ((hlevel before).mpr hzero)
    exact List.tail_eq_of_cons_eq heq
  · rintro ⟨inside, rfl, hcloses⟩
    obtain ⟨hzero, hfirst⟩ := closesGroup_iff.mp hcloses
    refine ⟨⟨inside, rfl⟩, (hlevel inside).mpr hzero, fun before hbefore hne hback => ?_⟩
    rcases List.prefix_cons_iff.mp hbefore with rfl | ⟨more, rfl, hmore⟩
    · exact absurd rfl hne
    · rw [hfirst more hmore ((hlevel more).mp hback)]

theorem isPlain_iff {c : Char} : isPlain c = true ↔ c ≠ separator ∧ c ≠ openBracket ∧ c ≠ delimiter := by
  simp [isPlain, and_assoc]

/-- The variants are the segments with the separator after them. -/
theorem isVariant_iff {variant : List Char} :
    IsVariant variant ↔ ∃ segment, IsSegment segment ∧ variant = segment ++ [separator] := by
  constructor
  · intro h
    cases h with
    | @plain segment h =>
      refine ⟨segment, .plain (fun hm => ?_) (fun hm => ?_) (fun hm => ?_), rfl⟩
      · exact (isPlain_iff.mp (h _ hm)).1 rfl
      · exact (isPlain_iff.mp (h _ hm)).2.1 rfl
      · exact (isPlain_iff.mp (h _ hm)).2.2 rfl
    | @group inside h => exact ⟨openBracket :: inside, .group (isGroup_iff.mpr ⟨inside, rfl, h⟩), rfl⟩
  · rintro ⟨segment, h, rfl⟩
    cases h with
    | plain hseparator hopen hdelimiter =>
      refine IsVariant.plain fun c hc => isPlain_iff.mpr ⟨?_, ?_, ?_⟩
      · rintro rfl
        exact hseparator hc
      · rintro rfl
        exact hopen hc
      · rintro rfl
        exact hdelimiter hc
    | group h =>
      obtain ⟨inside, rfl, hcloses⟩ := isGroup_iff.mp h
      exact IsVariant.group hcloses

theorem isLead_flatten {variants : List (List Char)} (h : ∀ v ∈ variants, IsVariant v) : IsLead variants.flatten := by
  induction variants with
  | nil => exact .nil
  | cons v variants ih =>
    obtain ⟨segment, hsegment, rfl⟩ := isVariant_iff.mp (h v List.mem_cons_self)
    rw [List.flatten_cons, List.append_assoc, List.singleton_append]
    exact .cons hsegment (ih fun x hx => h x (List.mem_cons_of_mem _ hx))

/-- A lead is a row of variants. -/
theorem IsLead.exists_variants {lead : List Char} (h : IsLead lead) :
    ∃ variants : List (List Char), (∀ v ∈ variants, IsVariant v) ∧ variants.flatten = lead := by
  induction h with
  | nil => exact ⟨[], by simp, rfl⟩
  | @cons segment lead hsegment _ ih =>
    obtain ⟨variants, hvariants, rfl⟩ := ih
    refine ⟨(segment ++ [separator]) :: variants, ?_, by simp⟩
    intro v hv
    rcases List.mem_cons.mp hv with rfl | hv
    · exact isVariant_iff.mpr ⟨segment, hsegment, rfl⟩
    · exact hvariants v hv

/-! ## The longest lead -/

theorem isLead_lead (token : List Char) : IsLead (read token).lead :=
  isLead_flatten fun _ hv => isVariant_of_mem_read hv

/-- A lead in front of a text is read before the text's own. -/
theorem read_append_of_isLead {lead : List Char} (h : IsLead lead) (cs : List Char) :
    (read (lead ++ cs)).lead = lead ++ (read cs).lead ∧ (read (lead ++ cs)).rest = (read cs).rest := by
  obtain ⟨variants, hvariants, rfl⟩ := h.exists_variants
  rw [read_flatten_append hvariants]
  exact ⟨List.flatten_append, rfl⟩

/-- The lead that is read and the rest are the token, the lead has the grammar of leads, and nothing longer that the token begins
with has. -/
theorem lead_longest (token : List Char) :
    (read token).lead ++ (read token).rest = token ∧ IsLead (read token).lead ∧
      ∀ before, before <+: token → IsLead before → before.length ≤ (read token).lead.length := by
  refine ⟨lead_append_rest token, isLead_lead token, ?_⟩
  rintro before ⟨cs, rfl⟩ hlead
  rw [(read_append_of_isLead hlead cs).1, List.length_append]
  exact Nat.le_add_right _ _

/-- A group with a separator and a delimiter inside, an empty segment, and a bracket in a run that was opened by none. -/
theorem lead_longest_of_groups :
    "md:[&:is(a|b)]::".toList <+: "md:[&:is(a|b)]::x]:y|z:".toList ∧ IsLead "md:[&:is(a|b)]::".toList ∧
      "md:[&:is(a|b)]::".toList.length ≤ (read "md:[&:is(a|b)]::x]:y|z:".toList).lead.length := by
  have hbefore : "md:[&:is(a|b)]::".toList <+: "md:[&:is(a|b)]::x]:y|z:".toList := ⟨"x]:y|z:".toList, by decide⟩
  have hlead : IsLead "md:[&:is(a|b)]::".toList := by
    have hread : (read "md:[&:is(a|b)]::".toList).lead = "md:[&:is(a|b)]::".toList := by decide +kernel
    rw [← hread]
    exact isLead_lead _
  exact ⟨hbefore, hlead, (lead_longest _).2.2 _ hbefore hlead⟩

end ClassChain.Chain

import ClassChain.Proofs.Chain.Lead
import ClassChain.Proofs.Chain.Recovery

/-!
# Variants on top of a token

Variants stack: `md:hover:a|b` is to be read as `md:` on top of `hover:a|b`. A text of variants alone is a lead
(`isLead_iff_rest_eq_nil`), and the reading goes over it and then reads the token below as if it stood alone, whatever brackets were
opened and closed on the way. So a lead on top of a token with variants of its own comes in front of each of its classes
(`classes_append_of_isLead`) and makes a chain of no token that was none (`isChain_append_iff`): `expand_of_stacked`.

The token must have variants of its own. `a|b` stays as it is, but `md:a|b` does not.
-/

namespace ClassChain.Chain

variable {lead token : List Char}

/-- The texts that the reading goes over to the end are the leads. -/
theorem isLead_iff_rest_eq_nil {cs : List Char} : IsLead cs ↔ (read cs).rest = [] := by
  constructor
  · intro h
    have hrest := (read_append_of_isLead h []).2
    rw [List.append_nil] at hrest
    rw [hrest, read_of_none rfl]
  · intro h
    have hlead := lead_append_rest cs
    rw [h, List.append_nil] at hlead
    rw [← hlead]
    exact isLead_lead cs

theorem lead_append_ne_nil (h : IsLead lead) (htoken : (read token).lead ≠ []) : (read (lead ++ token)).lead ≠ [] := by
  rw [(read_append_of_isLead h token).1]
  intro hnil
  exact htoken (List.append_eq_nil_iff.mp hnil).2

/-- A lead on top of a token with variants comes in front of each of its classes. -/
theorem classes_append_of_isLead (h : IsLead lead) (htoken : (read token).lead ≠ []) :
    classes (lead ++ token) = (classes token).map (lead ++ ·) := by
  obtain ⟨hlead, hrest⟩ := read_append_of_isLead h token
  have hfront : (lead ++ (read token).lead ++ ·) = (lead ++ ·) ∘ ((read token).lead ++ ·) := by
    funext part
    exact List.append_assoc _ _ _
  rw [classes_of_lead (lead_append_ne_nil h htoken), classes_of_lead htoken, hlead, hrest, List.map_map, hfront]

/-- A lead on top of a token with variants makes it no more and no less of a chain. -/
theorem isChain_append_iff (h : IsLead lead) (htoken : (read token).lead ≠ []) : IsChain (lead ++ token) ↔ IsChain token := by
  rw [IsChain, IsChain, (read_append_of_isLead h token).2]
  exact and_congr_left fun _ => iff_of_true (lead_append_ne_nil h htoken) htoken

/-- A token with variants that is written out with more variants on top of it has the same classes between its spaces, with these
variants in front of each; it stays as it is exactly when it does without them. -/
theorem expand_of_stacked (hlead : (read lead).rest = []) (htoken : (read token).lead ≠ [])
    (hlead_solid : ∀ c ∈ lead, Text.isBlank c = false) (htoken_solid : ∀ c ∈ token, Text.isBlank c = false) :
    (expand (lead ++ token)).splitOn ' ' = ((expand token).splitOn ' ').map (lead ++ ·) ∧
      (expand (lead ++ token) = lead ++ token ↔ expand token = token) := by
  have h : IsLead lead := isLead_iff_rest_eq_nil.mpr hlead
  have hsolid : ∀ c ∈ lead ++ token, Text.isBlank c = false := by
    intro c hc
    rcases List.mem_append.mp hc with hc | hc
    · exact hlead_solid c hc
    · exact htoken_solid c hc
  constructor
  · rw [splitOn_expand hsolid, splitOn_expand htoken_solid]
    exact classes_append_of_isLead h htoken
  · rw [expand_eq_self_iff, expand_eq_self_iff, isChain_append_iff h htoken]

/-- Nested groups, an empty segment and a bracket that nothing opened, on top of a chain with such a bracket in its rest. -/
theorem expand_of_stacked_groups :
    ((read "md:[&:is([a]|b)]::x]:".toList).rest = [] ∧ (read "h:y|z]|w".toList).lead ≠ [] ∧
      (∀ c ∈ "md:[&:is([a]|b)]::x]:".toList, Text.isBlank c = false) ∧ ∀ c ∈ "h:y|z]|w".toList, Text.isBlank c = false) ∧
    (expand ("md:[&:is([a]|b)]::x]:".toList ++ "h:y|z]|w".toList)).splitOn ' ' =
      ["md:[&:is([a]|b)]::x]:h:y".toList, "md:[&:is([a]|b)]::x]:h:z]|w".toList] := by
  have hlead : (read "md:[&:is([a]|b)]::x]:".toList).rest = [] := by decide +kernel
  have htoken : (read "h:y|z]|w".toList).lead ≠ [] := by decide +kernel
  have hlead_solid : ∀ c ∈ "md:[&:is([a]|b)]::x]:".toList, Text.isBlank c = false := not_blank_of_all (by decide +kernel)
  have htoken_solid : ∀ c ∈ "h:y|z]|w".toList, Text.isBlank c = false := not_blank_of_all (by decide +kernel)
  have hclasses : (expand "h:y|z]|w".toList).splitOn ' ' = ["h:y".toList, "h:z]|w".toList] := by decide +kernel
  have hstacked := (expand_of_stacked hlead htoken hlead_solid htoken_solid).1
  rw [hclasses] at hstacked
  exact ⟨⟨hlead, htoken, hlead_solid, htoken_solid⟩, hstacked⟩

end ClassChain.Chain

import Mathlib.Data.Set.Function
import ClassChain.Proofs.Chain.Token

/-!
# A token recovered from its classes

What a chain is written out to gives the chain back. Its classes share its lead, and the first of them, read by itself, has this
lead and no more: the rest of a token opens with no variant, so no part at its beginning does (`variant?_eq_none_of_prefix`).
`gather` takes the lead off every class and joins what is left with delimiters; a class can look like another chain, with variants in
its part or a bracket that closes early, and the token comes back all the same.

A token without blanks is written out to classes without spaces, so the classes are told from the text that they stand in
(`splitOn_expand`). `expand_loses_nothing` puts these together: nothing is lost, doubled or moved, and no two chains are written out
to the same text.
-/

namespace ClassChain.Chain

/-- The lead of some classes, read from the first of them. -/
def sharedLead (classes : List (List Char)) : List Char := (read (classes.headD [])).lead

/-- The token that some classes stand for: their lead, and what each has after it with a delimiter between. -/
def gather (classes : List (List Char)) : List Char :=
  sharedLead classes ++ [delimiter].intercalate (classes.map (·.drop (sharedLead classes).length))

/-- What some classes tell of the token that they were written out from. -/
structure Tells (classes : List (List Char)) (token : List Char) : Prop where
  lead : sharedLead classes = (read token).lead
  opens : ∀ c ∈ classes, sharedLead classes <+: c
  length : classes.length = delimiters (read token).rest + 1
  several : 1 ≤ delimiters (read token).rest
  gather : gather classes = token

/-! ## The lead of a class -/

/-- A text that goes on opens with the variant that it opened with. -/
theorem variant?_append_of_some {cs variant rest : List Char} (h : variant? cs = some (variant, rest)) (more : List Char) :
    variant? (cs ++ more) = some (variant, rest ++ more) := by
  obtain ⟨hvariant, rfl⟩ := variant?_eq_some_iff.mp h
  rw [List.append_assoc]
  exact variant?_append hvariant (rest ++ more)

/-- Where a text opens with no variant, its beginning does not either. -/
theorem variant?_eq_none_of_prefix {cs before : List Char} (h : variant? cs = none) (hbefore : before <+: cs) :
    variant? before = none := by
  obtain ⟨more, rfl⟩ := hbefore
  cases hsome : variant? before with
  | none => rfl
  | some found =>
    rw [variant?_append_of_some hsome more] at h
    simp at h

/-- The first part of a split is the beginning of the text. -/
theorem prefix_of_split_eq {cs first : List Char} {others : List (List Char)} (h : split cs = first :: others) : first <+: cs := by
  obtain ⟨-, ⟨rfl, -⟩ | ⟨rest, rfl, -⟩⟩ := splitFrom_cases h
  · exact List.prefix_refl cs
  · exact List.prefix_append first _

/-- Behind a lead, the first part of the rest is read with that lead and no variant of its own. -/
theorem lead_append_first {token first : List Char} {others : List (List Char)} (h : split (read token).rest = first :: others) :
    (read ((read token).lead ++ first)).lead = (read token).lead := by
  have hnone : variant? first = none := variant?_eq_none_of_prefix (variant?_rest token) (prefix_of_split_eq h)
  rw [read_lead_append, read_of_none hnone, Reading.lead, List.append_nil]
  rfl

/-- The lead that the classes of a chain share is the lead of the chain. -/
theorem sharedLead_classes {token : List Char} (h : (read token).lead ≠ []) : sharedLead (classes token) = (read token).lead := by
  obtain ⟨first, others, hsplit⟩ := List.exists_cons_of_ne_nil (split_ne_nil (read token).rest)
  rw [sharedLead, classes_of_lead h, hsplit, List.map_cons, List.headD_cons]
  exact lead_append_first hsplit

/-! ## The token from its classes -/

theorem gather_classes {token : List Char} (h : (read token).lead ≠ []) : gather (classes token) = token := by
  have hparts : (classes token).map (·.drop (read token).lead.length) = split (read token).rest := by
    have hdrop : ((·.drop (read token).lead.length) ∘ ((read token).lead ++ ·)) = id := funext fun _ => List.drop_left
    rw [classes_of_lead h, List.map_map, hdrop, List.map_id]
  rw [gather, sharedLead_classes h, hparts, join_split, lead_append_rest]

/-- The classes of a token without blanks are what stands between the spaces of what it is written out to. -/
theorem splitOn_expand {token : List Char} (h : ∀ c ∈ token, Text.isBlank c = false) :
    (expand token).splitOn ' ' = classes token := by
  refine List.splitOn_intercalate ' ' ?_ (classes_ne_nil token)
  intro c hc hspace
  have hblank := h ' ' ((sublist_of_mem_classes hc).subset hspace)
  rw [Text.isBlank_space] at hblank
  simp at hblank

theorem tells_classes {token : List Char} (h : IsChain token) : Tells (classes token) token where
  lead := sharedLead_classes h.1
  opens := by
    intro c hc
    rw [sharedLead_classes h.1]
    rw [classes_of_lead h.1, List.mem_map] at hc
    obtain ⟨part, -, rfl⟩ := hc
    exact List.prefix_append _ _
  length := by rw [classes_of_lead h.1, List.length_map, length_split]
  several := contains_iff_delimiters.mp h.2
  gather := gather_classes h.1

/-- The text that a token without blanks is written out to, when it is another text, tells the token: its classes between spaces
share the lead of the token, there is one more than delimiters count in the rest, at least two, and what each has after the lead
joined with delimiters is the rest. So no two such tokens are written out to the same text. -/
theorem expand_loses_nothing :
    (∀ token : List Char, (∀ c ∈ token, Text.isBlank c = false) → expand token ≠ token →
      Tells ((expand token).splitOn ' ') token) ∧
    Set.InjOn expand {token | (∀ c ∈ token, Text.isBlank c = false) ∧ expand token ≠ token} := by
  have htells : ∀ token : List Char, (∀ c ∈ token, Text.isBlank c = false) → expand token ≠ token →
      Tells ((expand token).splitOn ' ') token := by
    intro token hblank hchange
    rw [splitOn_expand hblank]
    exact tells_classes (not_not.mp (mt expand_eq_self_iff.mpr hchange))
  refine ⟨htells, ?_⟩
  have hinverse : Set.LeftInvOn (fun text => gather (text.splitOn ' ')) expand
      {token | (∀ c ∈ token, Text.isBlank c = false) ∧ expand token ≠ token} := by
    rintro token ⟨hblank, hchange⟩
    exact (htells token hblank hchange).gather
  exact hinverse.injOn

theorem not_blank_of_all {token : List Char} (h : token.all (!Text.isBlank ·) = true) :
    ∀ c ∈ token, Text.isBlank c = false := by
  intro c hc
  simpa using List.all_eq_true.mp h c hc

/-- A chain whose second class is a chain itself, since a bracket closes early in it, and two chains of which one has the lead again
in a part. -/
theorem expand_loses_nothing_early_close :
    ((∀ c ∈ "h:x|a]:b|c".toList, Text.isBlank c = false) ∧ expand "h:x|a]:b|c".toList ≠ "h:x|a]:b|c".toList ∧
      Tells ((expand "h:x|a]:b|c".toList).splitOn ' ') "h:x|a]:b|c".toList) ∧
    expand "h:x|h:y".toList ≠ expand "h:x|y".toList := by
  have hblank : ∀ c ∈ "h:x|a]:b|c".toList, Text.isBlank c = false := not_blank_of_all (by decide +kernel)
  have hchange : expand "h:x|a]:b|c".toList ≠ "h:x|a]:b|c".toList := by decide +kernel
  refine ⟨⟨hblank, hchange, expand_loses_nothing.1 _ hblank hchange⟩, ?_⟩
  intro hsame
  have heq := expand_loses_nothing.2 ⟨not_blank_of_all (by decide +kernel), by decide +kernel⟩
    ⟨not_blank_of_all (by decide +kernel), by decide +kernel⟩ hsame
  exact absurd heq (by decide)

end ClassChain.Chain

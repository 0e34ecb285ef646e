import ClassChain.Hook
import ClassChain.Proofs.Document.Idempotence

/-!
# When the hook answers, and how much code grows

The hook compares the code written out with the code. It could seem that rewritings in several places make up for each other, so
that nothing is told although something was written; but no token gets shorter, and one that is rewritten gets longer by its lead for
each delimiter that counts. So the hook answers with code exactly when some token of the code is a chain, and the code is longer
then by the growth of its tokens (`transform_answers`).
-/

namespace ClassChain.Hook

open Chain (read Counts delimiters)
open Document (tokens)

/-- The hook answers with code exactly when the file is rewritten and some token of the code, a bare run or a word of a value as the
mode of the file takes them, has variants and a delimiter in its rest that counts. The code written out is longer by the lead of
each token for every such delimiter. -/
theorem transform_answers (s : Settings) (code id : String) :
    ((transform s code id).code?.isSome = true ↔
      s.accepts id = true ∧
        ∃ w ∈ tokens (s.modeOf id) code.toList, (read w).lead ≠ [] ∧ ∃ i, Counts (read w).rest i) ∧
    (Document.expandText (s.modeOf id) code).length =
      code.length + ((tokens (s.modeOf id) code.toList).map fun w => (read w).lead.length * delimiters (read w).rest).sum := by
  have hchange : Document.expandText (s.modeOf id) code ≠ code ↔
      ∃ w ∈ tokens (s.modeOf id) code.toList, (read w).lead ≠ [] ∧ ∃ i, Counts (read w).rest i := by
    rw [Ne, ← String.toList_inj, Document.toList_expandText, Document.expand_eq_self_iff]
    simp only [not_forall, not_not, Chain.isChain_iff, exists_prop]
  have hgrowth : ∀ w, (read w).lead.length * delimiters (read w).rest = Chain.growth w := fun w => (Chain.growth_eq w).symm
  constructor
  · rw [← hchange, Option.isSome_iff_exists]
    simp only [code?_eq_some_iff]
    exact ⟨fun ⟨_, haccepts, hne, _⟩ => ⟨haccepts, hne⟩, fun ⟨haccepts, hne⟩ => ⟨_, haccepts, hne, rfl⟩⟩
  · simp only [hgrowth]
    rw [← String.length_toList, Document.toList_expandText, Document.length_expand, String.length_toList]

end ClassChain.Hook

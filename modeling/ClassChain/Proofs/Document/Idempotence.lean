import ClassChain.Proofs.Document.Rescan

/-!
# Expanding twice

A document stays as it is exactly when none of its tokens, the bare runs and the words of the values, is a chain
(`expand_eq_self_iff`): writing out makes every chain longer and nothing shorter, so no change can hide another.

Hence a second pass changes nothing exactly when no token of the output is a chain. Where only attributes are taken, the tokens of
the output are the classes of the tokens, and they are no chains as long as no bracket closes early
(`expand_expand_attributesOnly`). Where bare runs are taken too, a second pass is not always without effect (`expand_expand_ne`): a
bracket that closes early can leave a chain in a class, and a quotation mark in a chain can open an attribute in the output that
lets other text out of the run it stood in. Without these two there is no effect (`expand_expand_of_neverBelow`), and
`expand_expand_iff` says exactly when there is none.
-/

namespace ClassChain.Document

/-- The tokens of a piece. -/
def Piece.tokens : Piece → List (List Char)
  | .gap _ => []
  | .bare run => [run]
  | .attr a => Chain.words a.value

/-- The tokens of a document in order: its bare runs, where these are taken, and the words of its values. -/
def tokens (mode : Mode) (cs : List Char) : List (List Char) := (scan mode cs).flatMap Piece.tokens

/-! ## Growth -/

theorem Piece.length_expanded (piece : Piece) :
    piece.expanded.length = piece.text.length + (piece.tokens.map Chain.growth).sum := by
  cases piece with
  | gap c => rfl
  | bare run => simp [Piece.expanded, Piece.text, Piece.tokens, Chain.length_expand]
  | attr a =>
    simp only [Piece.expanded, Piece.text, Piece.tokens, Attribute.expand, Attribute.text, List.length_append,
      List.length_cons, Chain.length_expandWords]
    omega

/-- Writing a document out makes it longer by the growth of its tokens. -/
theorem length_expand (mode : Mode) (cs : List Char) :
    (expand mode cs).length = cs.length + ((tokens mode cs).map Chain.growth).sum := by
  have hlen : cs.length = (render (scan mode cs)).length := by rw [render_scan]
  rw [hlen, expand, tokens, render]
  generalize scan mode cs = pieces
  induction pieces with
  | nil => rfl
  | cons piece pieces ih =>
    simp only [List.flatMap_cons, List.length_append, List.map_append, List.sum_append, Piece.length_expanded, ih]
    omega

/-- A piece whose tokens are no chains is written as it was. -/
theorem Piece.expanded_of_tokens {piece : Piece} (h : ∀ w ∈ piece.tokens, ¬ Chain.IsChain w) : piece.expanded = piece.text := by
  cases piece with
  | gap c => rfl
  | bare run => exact Chain.expand_eq_self_iff.mpr (h run (by simp [Piece.tokens]))
  | attr a => simp [Piece.expanded, Piece.text, Attribute.expand, Chain.expandWords_eq_self_iff.mpr h]

/-- A document stays as it is exactly when no token of it is a chain. -/
theorem expand_eq_self_iff {mode : Mode} {cs : List Char} : expand mode cs = cs ↔ ∀ w ∈ tokens mode cs, ¬ Chain.IsChain w := by
  constructor
  · intro h
    have hlen := length_expand mode cs
    rw [h] at hlen
    exact Chain.sum_growth_eq_zero_iff.mp (by omega)
  · intro h
    have hpieces : ∀ piece ∈ scan mode cs, piece.expanded = piece.text := fun piece hpiece =>
      Piece.expanded_of_tokens fun w hw => h w (List.mem_flatMap.mpr ⟨piece, hpiece, hw⟩)
    rw [expand, List.flatMap_def, List.map_congr_left hpieces, ← List.flatMap_def]
    exact render_scan mode cs

/-! ## The tokens of the output -/

theorem tokens_intersperse (classes : List (List Char)) :
    ((classes.map Piece.bare).intersperse (.gap ' ')).flatMap Piece.tokens = classes := by
  induction classes with
  | nil => rfl
  | cons c classes ih =>
    cases classes with
    | nil => rfl
    | cons d classes =>
      rw [List.map_cons, List.map_cons, List.intersperse_cons_cons, List.flatMap_cons, List.flatMap_cons, ← List.map_cons, ih]
      rfl

theorem Piece.tokens_rescanned (piece : Piece) :
    piece.rescanned.flatMap Piece.tokens = piece.tokens.flatMap Chain.classes := by
  cases piece with
  | gap c => rfl
  | bare run => simp [Piece.rescanned, Piece.tokens, tokens_intersperse]
  | attr a => simp [Piece.rescanned, Piece.tokens, Attribute.expand, Chain.words_expandWords]

/-- Where no class of a bare run opens an attribute, the tokens of the output are the classes of the tokens. -/
theorem tokens_expand {mode : Mode} {cs : List Char} (h : StaysBare (scan mode cs)) :
    tokens mode (expand mode cs) = (tokens mode cs).flatMap Chain.classes := by
  rw [tokens, scan_expand_of_staysBare h, tokens, List.flatMap_assoc, List.flatMap_assoc]
  simp only [Piece.tokens_rescanned]

/-- Where no class of a bare run opens an attribute, a second pass changes nothing exactly when no part of a chain has a delimiter
that counts after variants of its own. -/
theorem expand_expand_of_staysBare {mode : Mode} {cs : List Char} (h : StaysBare (scan mode cs)) :
    expand mode (expand mode cs) = expand mode cs ↔
      ∀ w ∈ tokens mode cs, Chain.IsChain w →
        ∀ part ∈ Chain.split (Chain.read w).rest, Chain.contains (Chain.read part).rest = false := by
  rw [expand_eq_self_iff, tokens_expand h]
  constructor
  · intro hall w hw
    exact Chain.classes_not_isChain_iff.mp fun c hc => hall c (List.mem_flatMap.mpr ⟨w, hw, hc⟩)
  · intro hall c hc
    obtain ⟨w, hw, hc⟩ := List.mem_flatMap.mp hc
    exact Chain.classes_not_isChain_iff.mpr (hall w hw) c hc

/-! ## A second pass -/

/-- A second pass changes nothing when no token closes a bracket early, and no chain among the bare runs has a quotation mark. -/
theorem expand_expand_of_neverBelow {mode : Mode} {cs : List Char} (hn : ∀ w ∈ tokens mode cs, Chain.NeverBelow 0 w)
    (hq : ∀ run, Piece.bare run ∈ scan mode cs → Chain.IsChain run → ∀ q : Quote, q.char ∉ run) :
    expand mode (expand mode cs) = expand mode cs := by
  rw [expand_eq_self_iff, tokens_expand (staysBare_of_no_quote hq)]
  intro c hc
  obtain ⟨w, hw, hc⟩ := List.mem_flatMap.mp hc
  exact Chain.not_isChain_of_mem_classes (hn w hw) c hc

/-- A second pass over attributes changes nothing when no word of a value closes a bracket early; groups may stay open. -/
theorem expand_expand_attributesOnly {cs : List Char} (h : ∀ w ∈ tokens .attributesOnly cs, Chain.NeverBelow 0 w) :
    expand .attributesOnly (expand .attributesOnly cs) = expand .attributesOnly cs := by
  refine expand_expand_of_neverBelow h ?_
  intro run hrun
  exact absurd hrun (bare_not_mem_scan rfl)

/-- Parts with variants of their own, delimiters in bracket groups, and a group that stays open. -/
theorem expand_expand_open_group :
    (∀ w ∈ tokens .attributesOnly "<p class=\"md:x|[&>a]:y|m:[b|c]:z n:e|[f|g\">".toList, Chain.NeverBelow 0 w) ∧
      expand .attributesOnly (expand .attributesOnly "<p class=\"md:x|[&>a]:y|m:[b|c]:z n:e|[f|g\">".toList) =
        expand .attributesOnly "<p class=\"md:x|[&>a]:y|m:[b|c]:z n:e|[f|g\">".toList := by
  have hnever : ∀ w ∈ tokens .attributesOnly "<p class=\"md:x|[&>a]:y|m:[b|c]:z n:e|[f|g\">".toList,
      Chain.NeverBelow 0 w := by
    decide +kernel
  exact ⟨hnever, expand_expand_attributesOnly hnever⟩

/-- A second pass over attributes and bare runs changes nothing exactly when no token of the output is a chain. Unless a class of a
bare run opens an attribute in the output, that is when no part of a chain has a delimiter that counts after variants of its
own. -/
theorem expand_expand_iff (cs : List Char) :
    (expand .everything (expand .everything cs) = expand .everything cs ↔
      ∀ w ∈ tokens .everything (expand .everything cs), ¬ Chain.IsChain w) ∧
    (StaysBare (scan .everything cs) →
      (expand .everything (expand .everything cs) = expand .everything cs ↔
        ∀ w ∈ tokens .everything cs, Chain.IsChain w →
          ∀ part ∈ Chain.split (Chain.read w).rest, Chain.contains (Chain.read part).rest = false)) :=
  ⟨expand_eq_self_iff, expand_expand_of_staysBare⟩

/-- A chain beside an attribute, with a part that has a variant of its own: no class opens an attribute, and a second pass changes
nothing. -/
theorem expand_expand_of_markup :
    StaysBare (scan .everything "h:x|m:[a|b]:y <p class='n:c|d'>".toList) ∧
      expand .everything (expand .everything "h:x|m:[a|b]:y <p class='n:c|d'>".toList) =
        expand .everything "h:x|m:[a|b]:y <p class='n:c|d'>".toList := by
  have hbare : StaysBare (scan .everything "h:x|m:[a|b]:y <p class='n:c|d'>".toList) := by decide +kernel
  exact ⟨hbare, ((expand_expand_iff _).2 hbare).mpr (by decide +kernel)⟩

/-- A second pass is not always without effect. In the first document the bracket closes early, so the second delimiter counts only
once the part stands behind the lead. In the second the class `h:z="w` opens an attribute in the output, and its end sets free a
chain that stood in a run without variants. -/
theorem expand_expand_ne :
    expand .everything (expand .everything "h:x|a]:b|c".toList) ≠ expand .everything "h:x|a]:b|c".toList ∧
      expand .everything (expand .everything "h:x|z=\"w x|class=\"m:a|b\"".toList) ≠
        expand .everything "h:x|z=\"w x|class=\"m:a|b\"".toList := by
  decide +kernel

end ClassChain.Document

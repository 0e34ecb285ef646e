import Mathlib.Data.List.TakeWhile
import ClassChain.Markup.Tag

/-!
# Escaped text

`tag?_eq_some_iff` says which texts open with a tag, and `pieces_of_tag` and `pieces_of_plain` how a text is read piece by piece.
Escaping gives every tag an odd number of backslashes and changes no other piece (`pieces_escapeTags`), so no tag of an escaped text
is taken (`quiet_escape`). Nor does one come up at the seam to another text, unless that completes a tag that was begun (`Calm`):
all that can happen there is that backslashes at the end go to the first tag of what follows (`pieces_append`).
-/

namespace ClassChain.Markup

/-! ## Tags -/

/-- A bracket, which no tag has inside. -/
def isBracket (c : Char) : Bool := c == '[' || c == ']'

/-- What can stand between the brackets of a tag. -/
def IsBody (body : List Char) : Prop := ∃ c cs, body = c :: cs ∧ isTagStart c = true ∧ ∀ d ∈ cs, isBracket d = false

/-- The first bracket of a text. -/
def firstBracket? (cs : List Char) : Option Char := cs.find? isBracket

theorem isBracket_of_isTagStart {c : Char} (h : isTagStart c = true) : isBracket c = false := by
  unfold isBracket
  rw [Bool.or_eq_false_iff]
  constructor <;> rw [beq_eq_false_iff_ne] <;> rintro rfl <;> revert h <;> decide

theorem inside_eq : (fun d : Char => d != ']' && d != '[') = fun d => !isBracket d := by
  funext d
  simp [isBracket, Bool.and_comm, bne]

/-- A text opens with a tag exactly when it is written as one with anything after it. -/
theorem tag?_eq_some_iff {cs body after : List Char} :
    tag? cs = some (body, after) ↔ IsBody body ∧ cs = '[' :: (body ++ ']' :: after) := by
  constructor
  · intro h
    refine ⟨?_, (append_of_tag? h).symm⟩
    unfold tag? at h
    rw [inside_eq] at h
    split at h
    · split at h
      · rename_i c cs hstart
        split at h
        · obtain ⟨rfl, rfl⟩ := Prod.mk.inj (Option.some.inj h)
          refine ⟨c, _, rfl, hstart, fun d hd => ?_⟩
          simpa using List.all_eq_true.mp List.all_takeWhile d hd
        · cases h
      · cases h
    · cases h
  · rintro ⟨⟨c, inside, rfl, hstart, hinside⟩, rfl⟩
    have hfree : ∀ d ∈ inside, (!isBracket d) = true := fun d hd => by simp [hinside d hd]
    have hclose : (!isBracket ']') = false := rfl
    rw [List.cons_append, tag?, inside_eq, if_pos hstart, List.dropWhile_append_of_pos hfree, List.takeWhile_append_of_pos hfree,
      List.dropWhile_cons_of_neg (by simp [hclose]), List.takeWhile_cons_of_neg (by simp [hclose]), List.append_nil]
    rfl

theorem tag?_of_ne {c : Char} (hc : c ≠ '[') (cs : List Char) : tag? (c :: cs) = none := by
  refine Option.eq_none_iff_forall_ne_some.mpr fun parts hparts => hc ?_
  exact (List.cons.inj (tag?_eq_some_iff.mp hparts).2).1

/-- No tag opens with a bracket unless what follows begins as one, and then only if the next bracket does not close it. -/
theorem tag?_eq_none_iff {cs : List Char} :
    tag? ('[' :: cs) = none ↔ ∀ c ∈ cs.head?, isTagStart c = true → firstBracket? cs ≠ some ']' := by
  constructor
  · intro h c hc hstart hfirst
    obtain ⟨-, inside, after, rfl, hinside⟩ := List.find?_eq_some_iff_append.mp hfirst
    cases inside with
    | nil =>
      obtain rfl : ']' = c := Option.some.inj hc
      exact absurd hstart (by decide)
    | cons d inside =>
      obtain rfl : d = c := Option.some.inj hc
      have hbody : IsBody (d :: inside) :=
        ⟨d, inside, rfl, hstart, fun e he => by simpa using hinside e (List.mem_cons_of_mem _ he)⟩
      rw [tag?_eq_some_iff.mpr ⟨hbody, rfl⟩] at h
      cases h
  · intro h
    refine Option.eq_none_iff_forall_ne_some.mpr fun ⟨body, after⟩ hparts => ?_
    obtain ⟨⟨c, inside, rfl, hstart, hinside⟩, heq⟩ := tag?_eq_some_iff.mp hparts
    obtain rfl := (List.cons.inj heq).2
    refine h c rfl hstart (List.find?_eq_some_iff_append.mpr ⟨rfl, c :: inside, after, rfl, fun d hd => ?_⟩)
    rcases List.mem_cons.mp hd with rfl | hd
    · simp [isBracket_of_isTagStart hstart]
    · simp [hinside d hd]

/-! ## Pieces -/

theorem isSlash_of_mem_replicate {n : Nat} {c : Char} (h : c ∈ List.replicate n '\\') : isSlash c = true := by
  rw [List.eq_of_mem_replicate h]
  rfl

/-- A tag with its backslashes is read at once. -/
theorem pieces_of_tag {body : List Char} (hbody : IsBody body) (n : Nat) (after : List Char) :
    pieces (List.replicate n '\\' ++ '[' :: (body ++ ']' :: after)) = .tag n body :: pieces after := by
  have hbracket : isSlash '[' = false := rfl
  have hdrop : (List.replicate n '\\' ++ '[' :: (body ++ ']' :: after)).dropWhile isSlash = '[' :: (body ++ ']' :: after) := by
    rw [List.dropWhile_append_of_pos fun _ => isSlash_of_mem_replicate, List.dropWhile_cons_of_neg (by simp [hbracket])]
  have htake : (List.replicate n '\\' ++ '[' :: (body ++ ']' :: after)).takeWhile isSlash = List.replicate n '\\' := by
    rw [List.takeWhile_append_of_pos fun _ => isSlash_of_mem_replicate, List.takeWhile_cons_of_neg (by simp [hbracket]),
      List.append_nil]
  have htag : tag? ('[' :: (body ++ ']' :: after)) = some (body, after) := tag?_eq_some_iff.mpr ⟨hbody, rfl⟩
  generalize hcs : List.replicate n '\\' ++ '[' :: (body ++ ']' :: after) = cs at hdrop htake
  cases cs with
  | nil => simp at hcs
  | cons c rest =>
    rw [pieces]
    split
    · rename_i body' after' h
      rw [hdrop, htag] at h
      obtain ⟨rfl, rfl⟩ := Prod.mk.inj (Option.some.inj h)
      rw [htake, List.length_replicate]
    · rename_i h
      rw [hdrop, htag] at h
      cases h

/-- What opens no tag, not even after backslashes, begins with a plain character. -/
theorem pieces_of_plain {c : Char} {cs : List Char} (h : tag? ((c :: cs).dropWhile isSlash) = none) :
    pieces (c :: cs) = .plain c :: pieces cs := by
  rw [pieces]
  split
  · rename_i htag
    rw [h] at htag
    cases htag
  · rfl

theorem dropWhile_isSlash_replicate (n : Nat) : (List.replicate n '\\').dropWhile isSlash = [] :=
  List.dropWhile_eq_nil_iff.mpr fun _ => isSlash_of_mem_replicate

theorem pieces_replicate (n : Nat) : pieces (List.replicate n '\\') = List.replicate n (.plain '\\') := by
  induction n with
  | zero => rw [List.replicate_zero, pieces, List.replicate_zero]
  | succ n ih =>
    rw [List.replicate_succ, List.replicate_succ, pieces_of_plain, ih]
    rw [← List.replicate_succ, dropWhile_isSlash_replicate]
    rfl

/-- A text begins with a plain character unless it opens with a tag or with backslashes before one. -/
theorem tag?_dropWhile_eq_none_iff {cs : List Char} :
    tag? (cs.dropWhile isSlash) = none ↔ ∀ p ∈ (pieces cs).head?, ∃ c, p = .plain c := by
  cases cs with
  | nil => exact ⟨fun _ p hp => by simp [pieces] at hp, fun _ => rfl⟩
  | cons c rest =>
    rw [pieces]
    split
    · rename_i body after h
      simp [h]
    · rename_i h
      simp [h]

/-- Text that neither completes a tag that was begun before it nor goes on with a bracket as one. -/
structure Calm (tail : List Char) : Prop where
  head : ∀ c ∈ tail.head?, isTagStart c = false
  bracket : firstBracket? tail ≠ some ']'

theorem calm_bracket (cs : List Char) : Calm ('[' :: cs) where
  head := fun c hc => by rw [← Option.some.inj hc]; decide
  bracket := by simp [firstBracket?, isBracket]

theorem calm_slash : Calm ['\\'] where
  head := fun c hc => by rw [← Option.some.inj hc]; decide
  bracket := by decide

theorem Calm.tag?_append {cs tail : List Char} (htail : Calm tail) (h : tag? cs = none) (hne : cs ≠ []) :
    tag? (cs ++ tail) = none := by
  cases cs with
  | nil => exact absurd rfl hne
  | cons c cs =>
    by_cases hc : c = '['
    · subst hc
      rw [List.cons_append, tag?_eq_none_iff]
      intro d hd hstart hfirst
      cases cs with
      | nil => simp [htail.head d hd] at hstart
      | cons e cs =>
        rw [firstBracket?, List.find?_append, Option.or_eq_some_iff] at hfirst
        rcases hfirst with hfirst | ⟨-, hfirst⟩
        · exact tag?_eq_none_iff.mp h d hd hstart hfirst
        · exact htail.bracket hfirst
    · exact tag?_of_ne hc _

/-- Text before a calm one is read as it is alone, but for backslashes at its end, which may go to a tag. -/
theorem pieces_append {tail : List Char} (htail : Calm tail) (cs : List Char) : ∃ ps n,
    pieces cs = ps ++ List.replicate n (.plain '\\') ∧ pieces (cs ++ tail) = ps ++ pieces (List.replicate n '\\' ++ tail) := by
  fun_induction pieces cs with
  | case1 => exact ⟨[], 0, rfl, rfl⟩
  | case2 c rest body after h ih =>
    obtain ⟨ps, n, hps, happend⟩ := ih
    obtain ⟨hbody, hdrop⟩ := tag?_eq_some_iff.mp h
    refine ⟨.tag ((c :: rest).takeWhile isSlash).length body :: ps, n, by rw [hps]; rfl, ?_⟩
    have hcs : c :: rest ++ tail =
        List.replicate ((c :: rest).takeWhile isSlash).length '\\' ++ '[' :: (body ++ ']' :: (after ++ tail)) := by
      calc c :: rest ++ tail
          = (c :: rest).takeWhile isSlash ++ (c :: rest).dropWhile isSlash ++ tail := by rw [List.takeWhile_append_dropWhile]
        _ = _ := by rw [hdrop, ← takeWhile_isSlash]; simp
    rw [hcs, pieces_of_tag hbody, happend]
    rfl
  | case3 c rest h ih =>
    by_cases hslashes : (c :: rest).dropWhile isSlash = []
    · -- The text ends in these backslashes: before the tail they need not be plain any more.
      have hreplicate : c :: rest = List.replicate (c :: rest).length '\\' := by
        refine List.eq_replicate_iff.mpr ⟨rfl, fun d hd => ?_⟩
        simpa [isSlash] using List.dropWhile_eq_nil_iff.mp hslashes d hd
      refine ⟨[], (c :: rest).length, ?_, ?_⟩
      · rw [← pieces_of_plain h, List.nil_append, ← pieces_replicate, ← hreplicate]
      · rw [List.nil_append, ← hreplicate]
    · obtain ⟨ps, n, hps, happend⟩ := ih
      refine ⟨.plain c :: ps, n, by rw [hps]; rfl, ?_⟩
      rw [List.cons_append, pieces_of_plain, happend]
      · rfl
      · rw [← List.cons_append, List.dropWhile_append, if_neg (by simpa using hslashes)]
        exact htail.tag?_append h hslashes

/-! ## Escaping -/

/-- A piece as escaping leaves it. -/
def Piece.escaped : Piece → Piece
  | .plain c => .plain c
  | .tag slashes body => .tag (2 * slashes + 1) body

theorem escapeTags_eq (cs : List Char) : escapeTags cs = ((pieces cs).map Piece.escaped).flatMap Piece.text := by
  rw [escapeTags, List.flatMap_map]
  congr 1
  funext p
  cases p <;> rfl

theorem filter_isBracket_escaped (p : Piece) : p.escaped.text.filter isBracket = p.text.filter isBracket := by
  cases p with
  | plain c => rfl
  | tag slashes body => simp [Piece.escaped, Piece.text, isBracket]

/-- Escaping adds no bracket and takes none away. -/
theorem firstBracket?_escapeTags (cs : List Char) : firstBracket? (escapeTags cs) = firstBracket? cs := by
  have hfilter : (escapeTags cs).filter isBracket = cs.filter isBracket :=
    calc (escapeTags cs).filter isBracket
        = ((pieces cs).flatMap Piece.text).filter isBracket := by
          rw [escapeTags_eq, List.flatMap_map, List.filter_flatMap, List.filter_flatMap]
          simp only [filter_isBracket_escaped]
      _ = cs.filter isBracket := by rw [render_pieces]
  rw [firstBracket?, firstBracket?, ← List.head?_filter, ← List.head?_filter, hfilter]

/-- Escaped text begins with no more letters than the text itself. -/
theorem head?_of_escapeTags {cs : List Char} {c : Char} (h : c ∈ (escapeTags cs).head?) (hc : isTagStart c = true) :
    c ∈ cs.head? := by
  cases cs with
  | nil => simp [escapeTags, pieces] at h
  | cons d rest =>
    rw [escapeTags, pieces] at h
    split at h
    · simp [Piece.text, List.replicate_succ] at h
      subst h
      exact absurd hc (by decide)
    · simpa using h

/-- Escaping gives every tag an odd number of backslashes and changes nothing else. -/
theorem pieces_escapeTags (cs : List Char) : pieces (escapeTags cs) = (pieces cs).map Piece.escaped := by
  rw [escapeTags_eq]
  fun_induction pieces cs with
  | case1 => rw [List.map_nil, List.flatMap_nil, pieces]
  | case2 c rest body after h ih =>
    have hbody := (tag?_eq_some_iff.mp h).1
    rw [List.map_cons, List.flatMap_cons, Piece.escaped, Piece.text]
    simp only [List.append_assoc, List.cons_append, List.nil_append]
    rw [pieces_of_tag hbody, ih]
  | case3 c rest h ih =>
    rw [List.map_cons, List.flatMap_cons, Piece.escaped, Piece.text, List.singleton_append, pieces_of_plain, ih]
    rw [← escapeTags_eq] at ih ⊢
    by_cases hslash : isSlash c = true
    · -- What follows a plain backslash begins with a plain character, and so it does when escaped.
      rw [List.dropWhile_cons_of_pos hslash] at h ⊢
      rw [tag?_dropWhile_eq_none_iff] at h ⊢
      rw [ih, List.head?_map]
      intro p hp
      obtain ⟨q, hq, rfl⟩ := Option.map_eq_some_iff.mp hp
      obtain ⟨d, rfl⟩ := h q hq
      exact ⟨d, rfl⟩
    · rw [List.dropWhile_cons_of_neg hslash] at h ⊢
      by_cases hc : c = '['
      · subst hc
        rw [tag?_eq_none_iff] at h ⊢
        rw [firstBracket?_escapeTags]
        exact fun d hd hstart => h d (head?_of_escapeTags hd hstart) hstart
      · exact tag?_of_ne hc _

/-- A piece of which nothing is taken as a tag. -/
def Piece.isQuiet : Piece → Bool
  | .plain _ => true
  | .tag slashes _ => slashes % 2 == 1

/-- Text in which no tag is taken. -/
def Quiet (cs : List Char) : Prop := ∀ p ∈ pieces cs, p.isQuiet = true

theorem isQuiet_escaped (p : Piece) : p.escaped.isQuiet = true := by
  cases p with
  | plain c => rfl
  | tag slashes body => simp [Piece.escaped, Piece.isQuiet]

theorem quiet_escapeTags (cs : List Char) : Quiet (escapeTags cs) := by
  intro p hp
  rw [pieces_escapeTags] at hp
  obtain ⟨q, -, rfl⟩ := List.mem_map.mp hp
  exact isQuiet_escaped q

/-- In an escaped text no tag is taken. -/
theorem quiet_escape (text : String) : Quiet (escape text).toList := by
  unfold escape
  rw [String.toList_ofList]
  split
  · obtain ⟨ps, n, hps, happend⟩ := pieces_append calm_slash (escapeTags text.toList)
    intro p hp
    rw [happend, ← List.replicate_succ', pieces_replicate] at hp
    rcases List.mem_append.mp hp with hp | hp
    · exact quiet_escapeTags _ p (hps ▸ List.mem_append_left _ hp)
    · rw [List.eq_of_mem_replicate hp]
      rfl
  · exact quiet_escapeTags _

/-- Nor in a text without an opening bracket. -/
theorem quiet_of_not_mem {cs : List Char} (h : '[' ∉ cs) : Quiet cs := by
  intro p hp
  cases p with
  | plain c => rfl
  | tag slashes body =>
    refine absurd ?_ h
    rw [← render_pieces cs]
    exact List.mem_flatMap.mpr ⟨_, hp, by simp [Piece.text]⟩

end ClassChain.Markup

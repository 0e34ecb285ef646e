import ClassChain.Proofs.Chain.Depth

/-!
# What a variant is

A variant is a run of plain characters with the separator after it, or a closed bracket group with the separator after it
(`IsVariant`). `variant?_eq_some_iff` says that the reading finds exactly these: whether a text opens with a given variant does not
depend on what follows it. So the variants of a token are read again in front of any other text (`read_lead_append`), and a lead
that closes no bracket early leads back to depth zero (`depthOf_lead`).
-/

namespace ClassChain.Chain

/-- A text read inside a bracket group of some depth brings the depth to zero with its last character, and not before. -/
def ClosesGroup : Nat → List Char → Prop
  | 0, cs => cs = []
  | _ + 1, [] => False
  | depth + 1, c :: cs =>
    ClosesGroup (if c = openBracket then depth + 2 else if c = closeBracket then depth else depth + 1) cs

/-- A variant, by its shape alone. -/
inductive IsVariant : List Char → Prop where
  /-- A run of plain characters, perhaps an empty one. -/
  | plain {segment : List Char} : (∀ c ∈ segment, isPlain c = true) → IsVariant (segment ++ [separator])
  /-- A bracket group up to the bracket that closes it. -/
  | group {inside : List Char} : ClosesGroup 1 inside → IsVariant (openBracket :: (inside ++ [separator]))

/-! ## Groups -/

theorem groupLength_append {depth : Nat} {inside rest : List Char} (h : ClosesGroup depth inside) :
    groupLength depth (inside ++ rest) = inside.length := by
  induction inside generalizing depth with
  | nil =>
    cases depth with
    | zero => rw [groupLength, List.length_nil]
    | succ depth => exact absurd h (by simp [ClosesGroup])
  | cons c inside ih =>
    cases depth with
    | zero => exact absurd h (by simp [ClosesGroup])
    | succ depth =>
      rw [List.cons_append, groupLength, ih h, List.length_cons]
      omega

/-- A group that ends before the text does is closed. -/
theorem closesGroup_take {depth : Nat} {cs : List Char} (h : groupLength depth cs < cs.length) :
    ClosesGroup depth (cs.take (groupLength depth cs)) := by
  induction cs generalizing depth with
  | nil => simp at h
  | cons c cs ih =>
    cases depth with
    | zero => simp [groupLength, ClosesGroup]
    | succ depth =>
      rw [groupLength, List.length_cons] at h
      rw [groupLength, Nat.add_comm 1, List.take_succ_cons]
      exact ih (by omega)

/-- Inside a group the depth counts from where the group was opened. -/
theorem depthAfter_add_succ (base : Int) (depth : Nat) (c : Char) :
    depthAfter (base + ↑(depth + 1)) c =
      base + ↑(if c = openBracket then depth + 2 else if c = closeBracket then depth else depth + 1) := by
  unfold depthAfter
  split
  · omega
  · split <;> omega

/-- A closed group leads back to the depth where it was opened. -/
theorem depthOf_of_closesGroup {depth : Nat} {inside : List Char} (h : ClosesGroup depth inside) (base : Int) :
    depthOf (base + depth) inside = base := by
  induction inside generalizing depth with
  | nil =>
    cases depth with
    | zero => simp
    | succ depth => exact absurd h (by simp [ClosesGroup])
  | cons c inside ih =>
    cases depth with
    | zero => exact absurd h (by simp [ClosesGroup])
    | succ depth =>
      rw [depthOf_cons, depthAfter_add_succ]
      exact ih h

/-! ## Variants -/

theorem isPlain_separator : isPlain separator = false := by decide

theorem ne_openBracket_of_isPlain {c : Char} (h : isPlain c = true) : c ≠ openBracket := by
  rintro rfl
  exact absurd h (by decide)

theorem segmentLength_of_plain {segment rest : List Char} (h : ∀ c ∈ segment, isPlain c = true) :
    segmentLength (segment ++ separator :: rest) = segment.length := by
  have htake : (segment ++ separator :: rest).takeWhile isPlain = segment := by
    rw [List.takeWhile_append_of_pos h, List.takeWhile_cons_of_neg (by simp [isPlain_separator]), List.append_nil]
  cases segment with
  | nil => rfl
  | cons c segment =>
    rw [List.cons_append] at htake ⊢
    rw [segmentLength, if_neg (ne_openBracket_of_isPlain (h c (by simp))), htake]

theorem segmentLength_of_group {inside rest : List Char} (h : ClosesGroup 1 inside) :
    segmentLength (openBracket :: (inside ++ rest)) = 1 + inside.length := by
  rw [segmentLength, if_pos rfl, groupLength_append h]

/-- A segment with a separator after it is a variant with it. -/
theorem isVariant_of_segment {cs rest : List Char} (h : cs.drop (segmentLength cs) = separator :: rest) :
    IsVariant (cs.take (segmentLength cs) ++ [separator]) := by
  cases cs with
  | nil => simp at h
  | cons c cs =>
    by_cases hc : c = openBracket
    · subst hc
      have hlen : segmentLength (openBracket :: cs) = groupLength 1 cs + 1 := by
        rw [segmentLength, if_pos rfl, Nat.add_comm]
      rw [hlen, List.drop_succ_cons] at h
      -- something is left after the group, so the group was closed
      have hlt : groupLength 1 cs < cs.length := by
        have hrest := congrArg List.length h
        simp only [List.length_drop, List.length_cons] at hrest
        omega
      rw [hlen, List.take_succ_cons, List.cons_append]
      exact IsVariant.group (closesGroup_take hlt)
    · rw [segmentLength, if_neg hc, ← List.prefix_iff_eq_take.mp (List.takeWhile_prefix isPlain)]
      exact IsVariant.plain fun x hx => List.all_eq_true.mp List.all_takeWhile x hx

theorem isVariant_of_variant? {cs variant rest : List Char} (h : variant? cs = some (variant, rest)) : IsVariant variant := by
  unfold variant? at h
  split at h
  · simp at h
  · rename_i c tail hdrop
    split at h
    · rename_i hc
      subst hc
      simp only [Option.some.injEq, Prod.mk.injEq] at h
      obtain ⟨rfl, rfl⟩ := h
      exact isVariant_of_segment hdrop
    · simp at h

/-- A text opens with a variant exactly when it is one with anything after it. -/
theorem variant?_eq_some_iff {cs variant rest : List Char} :
    variant? cs = some (variant, rest) ↔ IsVariant variant ∧ variant ++ rest = cs := by
  constructor
  · intro h
    exact ⟨isVariant_of_variant? h, append_of_variant? h⟩
  · rintro ⟨hv, rfl⟩
    cases hv with
    | plain h => simp [variant?, segmentLength_of_plain h]
    | group h => simp [variant?, segmentLength_of_group h, Nat.add_comm 1]

theorem variant?_append {variant : List Char} (h : IsVariant variant) (rest : List Char) :
    variant? (variant ++ rest) = some (variant, rest) :=
  variant?_eq_some_iff.mpr ⟨h, rfl⟩

theorem isVariant_of_mem_read {token variant : List Char} (h : variant ∈ (read token).variants) : IsVariant variant := by
  fun_induction read token with
  | case1 token hnone => simp at h
  | case2 token first rest hsome after ih =>
    rcases List.mem_cons.mp h with rfl | h
    · exact isVariant_of_variant? hsome
    · exact ih h

/-- Variants in front of a text are read before its own. -/
theorem read_flatten_append {variants : List (List Char)} (h : ∀ v ∈ variants, IsVariant v) (cs : List Char) :
    read (variants.flatten ++ cs) = ⟨variants ++ (read cs).variants, (read cs).rest⟩ := by
  induction variants with
  | nil => rfl
  | cons v variants ih =>
    rw [List.flatten_cons, List.append_assoc, read_of_some (variant?_append (h v (by simp)) _),
      ih fun x hx => h x (by simp [hx])]
    rfl

/-- The lead of a token is read again in front of any text. -/
theorem read_lead_append (token cs : List Char) :
    read ((read token).lead ++ cs) = ⟨(read token).variants ++ (read cs).variants, (read cs).rest⟩ :=
  read_flatten_append (fun _ hv => isVariant_of_mem_read hv) cs

/-! ## The depth after a lead -/

/-- Plain characters open no bracket. -/
theorem depthOf_le_of_plain {segment : List Char} (h : ∀ c ∈ segment, isPlain c = true) (depth : Int) :
    depthOf depth segment ≤ depth := by
  induction segment generalizing depth with
  | nil => exact Int.le_refl depth
  | cons c segment ih =>
    have hstep : depthAfter depth c ≤ depth := by
      unfold depthAfter
      rw [if_neg (ne_openBracket_of_isPlain (h c (by simp)))]
      split <;> omega
    exact Int.le_trans (ih (fun x hx => h x (by simp [hx])) _) hstep

/-- A variant that closes no bracket early leads back to depth zero. -/
theorem depthOf_of_isVariant {variant : List Char} (hv : IsVariant variant) (hn : NeverBelow 0 variant) :
    depthOf 0 variant = 0 := by
  have hseparator : ∀ depth, depthAfter depth separator = depth := fun _ => rfl
  cases hv with
  | @plain segment h =>
    have hle := depthOf_le_of_plain h 0
    have hge := (neverBelow_append.mp hn).1.nonneg
    rw [depthOf_append, depthOf_cons, depthOf_nil, hseparator]
    omega
  | @group inside h =>
    have hopen : depthAfter 0 openBracket = 0 + ((1 : Nat) : Int) := rfl
    rw [depthOf_cons, depthOf_append, hopen, depthOf_of_closesGroup h, depthOf_cons, depthOf_nil, hseparator]

/-- A lead that closes no bracket early leads back to depth zero. -/
theorem depthOf_lead {token : List Char} (hn : NeverBelow 0 (read token).lead) : depthOf 0 (read token).lead = 0 := by
  have hv : ∀ v ∈ (read token).variants, IsVariant v := fun _ h => isVariant_of_mem_read h
  unfold Reading.lead at hn ⊢
  generalize (read token).variants = variants at hv hn
  induction variants with
  | nil => rfl
  | cons v variants ih =>
    rw [List.flatten_cons] at hn ⊢
    obtain ⟨hfirst, hrest⟩ := neverBelow_append.mp hn
    have hzero := depthOf_of_isVariant (hv v (by simp)) hfirst
    rw [hzero] at hrest
    rw [depthOf_append, hzero]
    exact ih (fun x hx => hv x (by simp [hx])) hrest

end ClassChain.Chain

import ClassChain.Proofs.Literal.Rule

/-!
# What is told by hints

The hints of the grammar are texts of their own and say of trees only what these are called, so the grammar is mild if what is told of
quoted texts is (`mild_grammar`).
-/

namespace ClassChain.Literal

section

variable {p : Pattern Rule} {ps qs : List (Pattern Rule)} {rest : Pattern Rule} {hint : String}

/-! ## What patterns are made of -/

@[simp] theorem allMild_append : Pattern.AllMild (ps ++ qs) ↔ Pattern.AllMild ps ∧ Pattern.AllMild qs := by
  induction ps with
  | nil => simp
  | cons p ps ih => simp [ih, and_assoc]

@[simp] theorem mild_kept (s : String) : (kept s).Mild := trivial

@[simp] theorem mild_mark (s : String) : (mark s).Mild := trivial

@[simp] theorem mild_name : name.Mild := trivial

@[simp] theorem allMild_map_kept (operators : List String) : Pattern.AllMild (operators.map kept) := by
  induction operators with
  | nil => trivial
  | cons s operators ih => exact ⟨mild_kept s, ih⟩

@[simp] theorem mild_optional : (optional p).Mild ↔ p.Mild := by simp [optional]

@[simp] theorem mild_several : (several p).Mild ↔ p.Mild := by simp [several]

@[simp] theorem mild_listed : (listed p).Mild ↔ p.Mild := by simp [listed]

@[simp] theorem mild_chained (kind : Kind) (operand : Rule) (operators : List String) : (chained kind operand operators).Mild := by
  simp [chained]

@[simp] theorem mild_tupled (item : Rule) : (tupled item).Mild := by simp [tupled]

@[simp] theorem mild_clauseBody : clauseBody.Mild := by simp [clauseBody]

@[simp] theorem mild_generated : generated.Mild := by simp [generated]

@[simp] theorem mild_parameter : (parameter p).Mild ↔ p.Mild := by simp [parameter]

@[simp] theorem mild_hinted (site : Site) : (hinted hint ps site).Mild ↔ Unbracketed hint.toList ∧ Pattern.AllMild ps := by
  rw [hinted, mild_mistake, mild_all]
  constructor
  · rintro ⟨hhint, hps⟩
    exact ⟨hhint [] ⟨.finish, 0, 0, false, []⟩ _ rfl, hps⟩
  · rintro ⟨hhint, hps⟩
    refine ⟨fun trees last fault hfault => ?_, hps⟩
    obtain rfl := Option.some.inj hfault
    exact hhint

@[simp] theorem mild_judged {hint? : List Tree → Token → Option String} (site : Site) :
    (judged hint? ps site).Mild ↔ (∀ trees last, ∀ hint ∈ hint? trees last, Unbracketed hint.toList) ∧ Pattern.AllMild ps := by
  rw [judged, mild_mistake, mild_all]
  constructor
  · rintro ⟨hhint, hps⟩
    exact ⟨fun trees last hint hmem => hhint trees last (.misread hint) (congrArg (Option.map Fault.misread) hmem), hps⟩
  · rintro ⟨hhint, hps⟩
    refine ⟨fun trees last fault hfault => ?_, hps⟩
    obtain ⟨hint, hmem, rfl⟩ := Option.map_eq_some_iff.mp hfault
    exact hhint trees last hint hmem

/-! ## What hints say of trees -/

theorem unbracketed_label (t : Tree) : Unbracketed t.label.toList := by
  unfold Tree.label
  split
  · split
    · split
      · rename_i n _ hmem
        simp only [List.contains_eq_mem, List.mem_cons, List.not_mem_nil, or_false, decide_eq_true_eq] at hmem
        rcases hmem with rfl | rfl | rfl <;> exact unbracketed_ofList (by decide)
      · exact unbracketed_ofList (by decide)
    · exact unbracketed_ofList (by decide)
    · split <;> exact unbracketed_ofList (by decide)
    · exact unbracketed_ofList (by decide)
  · split
    · split <;> exact unbracketed_ofList (by decide)
    · split <;> exact unbracketed_ofList (by decide)
    all_goals exact unbracketed_ofList (by decide)

/-- What is told of an expression by what it is called. -/
theorem unbracketed_append_label {front : String} (h : Unbracketed front.toList) (t : Tree) :
    Unbracketed (front ++ t.label).toList := by
  rw [String.toList_append, unbracketed_append]
  exact ⟨h, unbracketed_label t⟩

mutual

theorem unbracketed_of_unassignable? {t : Tree} {told : String} (h : t.unassignable? = some told) :
    Unbracketed told.toList := by
  cases t with
  | leaf t =>
    unfold Tree.unassignable? at h
    split at h
    · cases h
    · cases h
      exact unbracketed_label _
  | node kind parts =>
    unfold Tree.unassignable? at h
    split at h
    · contradiction
    · rename_i heq
      obtain ⟨-, rfl⟩ := Tree.node.inj heq
      exact unbracketed_of_unassignableAmong? h
    · rename_i heq
      obtain ⟨-, rfl⟩ := Tree.node.inj heq
      exact unbracketed_of_unassignableAmong? h
    · rename_i heq
      obtain ⟨-, rfl⟩ := Tree.node.inj heq
      split at h
      · exact unbracketed_of_unassignable? h
      · cases h
    · split at h
      · cases h
      · cases h
        exact unbracketed_ofList (by decide)
    · cases h
      exact unbracketed_label _

theorem unbracketed_of_unassignableAmong? {ts : List Tree} {told : String} (h : unassignableAmong? ts = some told) :
    Unbracketed told.toList := by
  cases ts with
  | nil => cases h
  | cons t ts =>
    unfold unassignableAmong? at h
    rw [Option.orElse_eq_or, Option.or_eq_some_iff] at h
    rcases h with h | ⟨-, h⟩
    · exact unbracketed_of_unassignable? h
    · exact unbracketed_of_unassignableAmong? h

end

theorem unbracketed_of_bareCall? {trees : List Tree} {told : String} (h : told ∈ bareCall? trees) : Unbracketed told.toList := by
  unfold bareCall? at h
  split at h
  · have hmem := List.mem_of_find?_eq_some h
    simp only [List.mem_cons, List.not_mem_nil, or_false] at hmem
    rcases hmem with rfl | rfl <;> exact unbracketed_ofList (by decide)
  · cases h

theorem unbracketed_orderHint (given : List Tree) : Unbracketed (orderHint given).toList := by
  unfold orderHint
  split <;> exact unbracketed_ofList (by decide)

/-! ## The grammar -/

theorem unbracketed_equalsHint : Unbracketed equalsHint.toList := unbracketed_ofList (by decide)

theorem unbracketed_generatorHint : Unbracketed generatorHint.toList := unbracketed_ofList (by decide)

theorem unbracketed_targetHint : Unbracketed targetHint.toList := unbracketed_ofList (by decide)

theorem mild_mistakenValue : mistakenValue.Mild := by
  simp only [mistakenValue, allMild_nil, allMild_cons, mild_rule, mild_all, mild_first, mild_ahead, mild_hinted, mild_mark, and_true,
    true_and]
  exact ⟨unbracketed_ofList (by decide), unbracketed_ofList (by decide)⟩

theorem mild_mistakes (r : Rule) : (mistakes r).Mild := by
  unfold mistakes
  split <;> simp only [allMild_nil, allMild_cons, mild_word, mild_rule, mild_all, mild_first, mild_many, mild_absent, mild_bare,
    mild_hinted, mild_judged, mild_optional, mild_several, mild_listed, mild_name, mild_kept, mild_mark, and_true, true_and]
  case h_1 =>
    refine ⟨fun trees last hint hhint => ?_, unbracketed_ofList (by decide)⟩
    split at hhint
    · cases hhint
    · cases hhint
      exact unbracketed_ofList (by decide)
  case h_2 =>
    intro trees last hint hhint
    obtain ⟨name, hname, rfl⟩ := Option.map_eq_some_iff.mp hhint
    have hname := unbracketed_of_bareCall? hname
    simp only [String.toList_append, unbracketed_append]
    refine ⟨⟨⟨⟨?_, hname⟩, ?_⟩, hname⟩, ?_⟩ <;> exact unbracketed_ofList (by decide)
  case h_3 =>
    refine ⟨fun trees last hint hhint => ?_, unbracketed_equalsHint, fun trees last hint hhint => ?_⟩
    · obtain ⟨t, -, rfl⟩ := Option.map_eq_some_iff.mp hhint
      exact unbracketed_append_label (unbracketed_ofList (by decide)) t
    · obtain ⟨t, -, rfl⟩ := Option.map_eq_some_iff.mp hhint
      rw [String.toList_append, unbracketed_append]
      exact ⟨unbracketed_append_label (unbracketed_ofList (by decide)) t, unbracketed_ofList (by decide)⟩
  case h_4 => exact ⟨unbracketed_ofList (by decide), unbracketed_ofList (by decide)⟩
  case h_5 => exact ⟨unbracketed_ofList (by decide), unbracketed_targetHint, unbracketed_targetHint⟩
  case h_6 => exact unbracketed_ofList (by decide)
  case h_7 => exact mild_mistakenValue
  case h_8 => exact ⟨unbracketed_ofList (by decide), mild_mistakenValue⟩
  case h_9 =>
    intro trees last hint hhint
    obtain ⟨told, htold, rfl⟩ := Option.map_eq_some_iff.mp hhint
    rw [String.toList_append, unbracketed_append]
    exact ⟨unbracketed_ofList (by decide), unbracketed_of_unassignableAmong? htold⟩
  case h_10 =>
    refine ⟨unbracketed_ofList (by decide), unbracketed_generatorHint, unbracketed_equalsHint, fun trees last hint hhint => ?_,
      unbracketed_generatorHint, fun trees last hint hhint => ?_⟩
    · split at hhint
      · cases hhint
      · cases hhint
        exact unbracketed_generatorHint
    · cases hhint
      exact unbracketed_orderHint trees
  case h_11 =>
    refine ⟨fun trees last hint hhint => ?_, unbracketed_equalsHint, unbracketed_ofList (by decide)⟩
    obtain ⟨t, -, rfl⟩ := Option.map_eq_some_iff.mp hhint
    exact unbracketed_append_label (unbracketed_ofList (by decide)) t
  case h_12 => refine ⟨?_, ?_, ?_, ?_, ?_, ?_⟩ <;> exact unbracketed_ofList (by decide)
  case h_13 => refine ⟨?_, ?_, ?_⟩ <;> exact unbracketed_ofList (by decide)
  case h_14 => refine ⟨?_, ?_⟩ <;> exact unbracketed_ofList (by decide)

theorem mild_general (r : Rule) : (general r).Mild := by
  unfold general
  split <;> simp

theorem mild_of_numberFault? {trees : List Tree} {fault : Fault} (h : numberFault? trees = some fault) : fault.Mild := by
  unfold numberFault? at h
  split at h
  · split at h
    · cases h
      trivial
    · cases h
  · cases h

theorem mild_operative (r : Rule) : (operative r).Mild := by
  unfold operative
  split <;> simp only [allMild_nil, allMild_cons, mild_rule, mild_all, mild_first, mild_many, mild_ahead, mild_made, mild_joined,
    mild_word, mild_checked, allMild_append, allMild_map_kept, mild_chained, mild_optional, mild_name,
    mild_kept, mild_mark, and_true, true_and]
  exact fun _ _ _ => mild_of_numberFault?

theorem mild_bracketed (r : Rule) : (bracketed r).Mild := by
  unfold bracketed
  split <;> simp

theorem mild_parametric (r : Rule) : (parametric r).Mild := by
  unfold parametric
  split <;> simp only [allMild_nil, allMild_cons, mild_rule, mild_all, mild_first, mild_many, mild_ahead, mild_bare, mild_made,
    mild_late, mild_hinted, mild_optional, mild_several, mild_parameter,
    mild_mark, and_true, true_and]
  exact unbracketed_ofList (by decide)

/-- The grammar is mild if what is wrong with quoted texts is. -/
theorem mild_grammar {fault? : List Tree → Option Fault}
    (hfault : ∀ trees fault, (∀ t ∈ trees, t.Mild) → fault? trees = some fault → fault.Mild) (r : Rule) :
    ((grammar fault?).pattern r).Mild := by
  have htexts : (texts fault? r).Mild := by
    unfold texts
    split
    · exact ⟨hfault, mild_several.mpr trivial⟩
    · trivial
  exact ⟨mild_general r, mild_operative r, mild_bracketed r, htexts, mild_parametric r, mild_mistakes r, trivial⟩

end

end ClassChain.Literal

import ClassChain.Literal.Grammar
import ClassChain.Proofs.Literal.Word

/-!
# What is told by rules

Rules tell faults of their own where a pattern looks for them, and otherwise those of the words. Words that are mild, read by patterns
that are, come to outcomes that are, those remembered included (`mildly_readWithin`).
-/

namespace ClassChain.Literal

/-! ## What rules come to -/

/-- A mild word by itself; words inside nodes are not told. -/
def Tree.Mild : Tree → Prop
  | .leaf t => t.word.Mild
  | .node _ _ => True

/-- Trees that were read are mild, and so is a fault. -/
def Outcome.Mild : Outcome → Prop
  | .fits trees _ => ∀ t ∈ trees, t.Mild
  | .faulty fault _ => fault.Mild
  | .stopped fault => fault.Mild
  | .differs | .excluded => True

mutual

/-- Faults that a pattern tells of mild trees are mild. -/
def Pattern.Mild {ρ : Type} : Pattern ρ → Prop
  | .word _ | .rule _ => True
  | .all ps | .first ps => Pattern.AllMild ps
  | .many p | .ahead p | .absent p | .bare p | .made _ p | .joined _ p | .late p | .plain p | .settled p => p.Mild
  | .checked fault? p => (∀ trees fault, (∀ t ∈ trees, t.Mild) → fault? trees = some fault → fault.Mild) ∧ p.Mild
  | .mistake _ fault? p => (∀ trees last fault, fault? trees last = some fault → fault.Mild) ∧ p.Mild

/-- Faults that patterns tell of mild trees are mild. -/
def Pattern.AllMild {ρ : Type} : List (Pattern ρ) → Prop
  | [] => True
  | p :: ps => p.Mild ∧ Pattern.AllMild ps

end

section

variable {ρ : Type} {p : Pattern ρ} {ps : List (Pattern ρ)}

@[simp] theorem allMild_nil : Pattern.AllMild ([] : List (Pattern ρ)) := trivial

@[simp] theorem allMild_cons : Pattern.AllMild (p :: ps) ↔ p.Mild ∧ Pattern.AllMild ps := Iff.rfl

@[simp] theorem mild_word (fits : Word → Bool) : (Pattern.word fits : Pattern ρ).Mild := trivial

@[simp] theorem mild_rule (r : ρ) : (Pattern.rule r).Mild := trivial

@[simp] theorem mild_all : (Pattern.all ps).Mild ↔ Pattern.AllMild ps := Iff.rfl

@[simp] theorem mild_first : (Pattern.first ps).Mild ↔ Pattern.AllMild ps := Iff.rfl

@[simp] theorem mild_many : (Pattern.many p).Mild ↔ p.Mild := Iff.rfl

@[simp] theorem mild_ahead : (Pattern.ahead p).Mild ↔ p.Mild := Iff.rfl

@[simp] theorem mild_absent : (Pattern.absent p).Mild ↔ p.Mild := Iff.rfl

@[simp] theorem mild_bare : (Pattern.bare p).Mild ↔ p.Mild := Iff.rfl

@[simp] theorem mild_made (kind : Kind) : (Pattern.made kind p).Mild ↔ p.Mild := Iff.rfl

@[simp] theorem mild_joined (kind : Kind) : (Pattern.joined kind p).Mild ↔ p.Mild := Iff.rfl

theorem mild_mistake {site : Site} {fault? : List Tree → Token → Option Fault} :
    (Pattern.mistake site fault? p).Mild ↔ (∀ trees last fault, fault? trees last = some fault → fault.Mild) ∧ p.Mild := Iff.rfl

theorem mild_checked {fault? : List Tree → Option Fault} :
    (Pattern.checked fault? p).Mild ↔
      (∀ trees fault, (∀ t ∈ trees, t.Mild) → fault? trees = some fault → fault.Mild) ∧ p.Mild := Iff.rfl

@[simp] theorem mild_late : (Pattern.late p).Mild ↔ p.Mild := Iff.rfl

@[simp] theorem mild_plain : (Pattern.plain p).Mild ↔ p.Mild := Iff.rfl

@[simp] theorem mild_settled : (Pattern.settled p).Mild ↔ p.Mild := Iff.rfl

end

section

variable {ρ : Type} [BEq ρ] [Hashable ρ]

/-- What rules came to is mild. -/
def Progress.Mild (progress : Progress ρ) : Prop :=
  ∀ (key : ρ × Nat × Bool) (outcome : Outcome), progress.known[key]? = some outcome → outcome.Mild

/-- What a reading comes to is mild, and so is all that was found so far. -/
structure Mildly (result : Outcome × Progress ρ) : Prop where
  outcome : result.1.Mild
  progress : result.2.Mild

variable {g : Grammar ρ} {words : Tokens} {found : Array Token} {progress : Progress ρ}

theorem mildly_nothing (h : progress.Mild) (place : Nat) : Mildly (.fits [] place, progress) := ⟨List.forall_mem_nil _, h⟩

theorem mildly_differs (h : progress.Mild) : Mildly (.differs, progress) := ⟨trivial, h⟩

theorem mildly_node (h : progress.Mild) (kind : Kind) (trees : List Tree) (next : Nat) :
    Mildly (.fits [.node kind trees] next, progress) :=
  ⟨fun _ ht => List.mem_singleton.mp ht ▸ trivial, h⟩

/-- What goes on after what was read is mild if it is so for mild trees. -/
theorem Mildly.fits {result : Outcome × Progress ρ} {next : List Tree → Nat → Progress ρ → Outcome × Progress ρ}
    (h : Mildly result)
    (hnext : ∀ (trees : List Tree) (place : Nat) (progress : Progress ρ), (∀ t ∈ trees, t.Mild) → progress.Mild →
      Mildly (next trees place progress)) :
    Mildly (match result with
      | (.fits trees place, progress) => next trees place progress
      | other => other) := by
  obtain ⟨outcome, progress⟩ := result
  cases outcome with
  | fits trees place => exact hnext trees place progress h.outcome h.progress
  | _ => exact h

/-- Readings one after another. -/
theorem Mildly.more {result : Outcome × Progress ρ} {trees : List Tree} (h : Mildly result) (htrees : ∀ t ∈ trees, t.Mild) :
    Mildly (match result with
      | (.fits more last, progress) => (.fits (trees ++ more) last, progress)
      | other => other) :=
  h.fits fun _ _ _ hmore hprogress => ⟨List.forall_mem_append.mpr ⟨htrees, hmore⟩, hprogress⟩

/-- Another reading after one that came to nothing. -/
theorem Mildly.differs {result : Outcome × Progress ρ} {next : Progress ρ → Outcome × Progress ρ} (h : Mildly result)
    (hnext : ∀ progress : Progress ρ, progress.Mild → Mildly (next progress)) :
    Mildly (match result with
      | (.differs, progress) => next progress
      | other => other) := by
  obtain ⟨outcome, progress⟩ := result
  cases outcome with
  | differs => exact hnext progress h.progress
  | _ => exact h

/-- One or the other of these. -/
theorem Mildly.either {result : Outcome × Progress ρ} {next : List Tree → Nat → Progress ρ → Outcome × Progress ρ}
    {instead : Progress ρ → Outcome × Progress ρ} (h : Mildly result)
    (hnext : ∀ (trees : List Tree) (place : Nat) (progress : Progress ρ), (∀ t ∈ trees, t.Mild) → progress.Mild →
      Mildly (next trees place progress))
    (hinstead : ∀ progress : Progress ρ, progress.Mild → Mildly (instead progress)) :
    Mildly (match result with
      | (.fits trees place, progress) => next trees place progress
      | (.differs, progress) => instead progress
      | other => other) := by
  obtain ⟨outcome, progress⟩ := result
  cases outcome with
  | fits trees place => exact hnext trees place progress h.outcome h.progress
  | differs => exact hinstead progress h.progress
  | _ => exact h

theorem Mildly.joined {result : Outcome × Progress ρ} (kind : Kind) (h : Mildly result) :
    Mildly (match result with
      | (.fits [tree] next, progress) => (.fits [tree] next, progress)
      | (.fits trees next, progress) => (.fits [.node kind trees] next, progress)
      | other => other) := by
  split
  · exact h
  · exact mildly_node h.progress kind _ _
  · exact h

theorem mildly_takeWord (hwords : words.Mild) (hfound : ∀ (i : Nat) (t : Token), found[i]? = some t → t.word.Mild)
    (fits : Word → Bool) (place : Nat) (h : progress.Mild) : Mildly (takeWord words found fits place progress) := by
  unfold takeWord
  dsimp only
  split
  · rename_i token _ htoken
    refine ⟨?_, h⟩
    dsimp only
    split
    · exact fun t ht => List.mem_singleton.mp ht ▸ hfound _ _ htoken
    · trivial
  · rename_i stop _ hstop
    exact ⟨hwords.fault _ hstop, h⟩
  · exact mildly_differs h

variable [LawfulBEq ρ]

theorem Progress.Mild.insert {outcome : Outcome} (h : progress.Mild) (hnew : outcome.Mild) (key : ρ × Nat × Bool) :
    { progress with known := progress.known.insert key outcome }.Mild := by
  intro other found hfound
  rw [Std.HashMap.getElem?_insert] at hfound
  split at hfound
  · cases hfound
    exact hnew
  · exact h other found hfound

/-- What is read by mild patterns is mild. -/
theorem mildly_readWithin (hg : ∀ r, (g.pattern r).Mild) (hwords : words.Mild)
    (hfound : ∀ (i : Nat) (t : Token), found[i]? = some t → t.word.Mild) (depth level : Nat) (seeksMistakes : Bool)
    {p : Pattern ρ} (hp : p.Mild) (place : Nat) (h : progress.Mild) :
    Mildly (g.readWithin words found depth level seeksMistakes p place progress) := by
  induction depth generalizing level seeksMistakes p place progress with
  | zero => exact mildly_differs h
  | succ depth ih =>
    unfold Grammar.readWithin
    cases p with
    | word fits => exact mildly_takeWord hwords hfound fits place h
    | rule r =>
      dsimp only
      split
      · exact ⟨trivial, h⟩
      · split
        · rename_i outcome hknown
          exact ⟨h _ _ hknown, h⟩
        · obtain ⟨houtcome, hprogress⟩ := ih (level + 1) seeksMistakes (hg r) place h
          generalize g.readWithin words found depth (level + 1) seeksMistakes (g.pattern r) place progress = result
            at houtcome hprogress
          obtain ⟨outcome, after⟩ := result
          -- what is remembered is what the rule came to for those who use it
          cases outcome with
          | excluded =>
            have hdiffers : Outcome.differs.Mild := trivial
            exact ⟨hdiffers, hprogress.insert hdiffers _⟩
          | _ => exact ⟨houtcome, hprogress.insert houtcome _⟩
    | all ps =>
      cases ps with
      | nil => exact mildly_nothing h place
      | cons p ps =>
        exact (ih level seeksMistakes hp.1 place h).fits fun trees next progress htrees hprogress =>
          (ih level seeksMistakes (p := .all ps) hp.2 next hprogress).more htrees
    | first ps =>
      cases ps with
      | nil => exact mildly_differs h
      | cons p ps =>
        exact (ih level seeksMistakes hp.1 place h).differs fun progress hprogress =>
          ih level seeksMistakes (p := .first ps) hp.2 place hprogress
    | many p =>
      refine (ih level seeksMistakes (p := p) hp place h).either (fun trees next progress htrees hprogress => ?_)
        fun _ hprogress => mildly_nothing hprogress place
      split
      · exact mildly_nothing hprogress place
      · exact (ih level seeksMistakes (p := .many p) hp next hprogress).more htrees
    | ahead p =>
      exact (ih level seeksMistakes (p := p) hp place h).fits fun _ _ _ _ hprogress => mildly_nothing hprogress place
    | absent p =>
      exact (ih level seeksMistakes (p := p) hp place h).either (fun _ _ _ _ hprogress => mildly_differs hprogress)
        fun _ hprogress => mildly_nothing hprogress place
    | bare p =>
      exact (ih level seeksMistakes (p := p) hp place h).fits fun _ next _ _ hprogress => mildly_nothing hprogress next
    | made kind p =>
      exact (ih level seeksMistakes (p := p) hp place h).fits fun trees next _ _ hprogress => mildly_node hprogress kind trees next
    | joined kind p => exact (ih level seeksMistakes (p := p) hp place h).joined kind
    | checked fault? p =>
      refine (ih level seeksMistakes hp.2 place h).fits fun trees next progress htrees hprogress => ?_
      split
      · rename_i fault hfault
        exact ⟨hp.1 trees fault htrees hfault, hprogress⟩
      · exact ⟨htrees, hprogress⟩
    | mistake site fault? p =>
      refine (ih level seeksMistakes hp.2 place h).fits fun trees next progress htrees hprogress => ?_
      split
      · rename_i fault hfault
        obtain ⟨last, -, hfault⟩ := Option.bind_eq_some_iff.mp hfault
        exact ⟨hp.1 trees last fault hfault, hprogress⟩
      · exact ⟨trivial, hprogress⟩
    | late p =>
      dsimp only
      split
      · exact ih level seeksMistakes (p := p) hp place h
      · exact mildly_differs h
    | plain p => exact ih level false (p := p) hp place h
    | settled p =>
      exact (ih level seeksMistakes (p := p) hp place h).differs fun _ hprogress => ⟨trivial, hprogress⟩

end

end ClassChain.Literal

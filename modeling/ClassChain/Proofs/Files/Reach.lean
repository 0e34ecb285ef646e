import ClassChain.Proofs.Files.Refusal
import ClassChain.Proofs.Files.Walk

/-!
# How much can be missing

A directory is made with all that are missing above it, and for each of these one more call stands within the others. `Lacks` counts
what is missing by the walks to the paths above. Too many calls are needed exactly where a path lacks as many directories
(`ensureWithin_tooDeep_iff`), and then nothing is made (`files_of_lacks`). A path lacks no more directories than it has steps
(`length_of_lacks`), or than it has names behind a directory that is there (`length_of_lacks_append`, `lacks_append`), and no more when
others have been made (`Grown.lacks`).
-/

namespace ClassChain.Files.FileSystem

variable {fs after : FileSystem} {p q : Path} {calls : Nat}

/-! ## One missing directory -/

/-- A directory is not made where the walk stops before the last step. -/
theorem makeOne_of_stop {steps : List Step} {step : Step} {cause : Cause} (hp : (q.through (steps ++ [step])).Legal)
    (hstop : stopOf (fs.follow false (q.through steps).route) = some cause) :
    fs.makeOne (q.through (steps ++ [step])) = .error (.refused cause (q.through (steps ++ [step]))) := by
  have hgo := follow_through_of_stop hstop (List.cons_ne_nil step [])
  rw [Path.through_through] at hgo
  have hlast : (q.through (steps ++ [step])).steps.getLast? = some step := by simp [Path.through, ← List.append_assoc]
  rw [makeOne, hp.not_null, if_neg (by simp), if_neg (Nat.not_lt.mpr hp.short), hlast]
  cases step with
  | here | close | up => dsimp only; rw [hgo]
  | into n =>
    dsimp only
    rw [Path.parent_through_concat]
    cases hfollow : fs.follow false (q.through steps).route with
    | error c =>
      rw [hfollow] at hstop
      obtain rfl : c = cause := by simpa [stopOf] using hstop
      rfl
    | ok place =>
      rw [hfollow] at hstop
      cases place with
      | directory l => simp [stopOf] at hstop
      | file l content | absent l n' =>
        simp only [stopOf, Option.some.injEq] at hstop
        rw [← hstop]

/-- A step that goes into nothing leads from a directory to a directory. -/
theorem exists_follow_step {step : Step} {d : Location} (h : fs.follow false q.route = .ok (.directory d))
    (hstep : ∀ n, step ≠ .into n) : ∃ e, fs.follow false (q.through [step]).route = .ok (.directory e) := by
  obtain ⟨left, hleft⟩ := exists_follow_through h
  rw [hleft false [step] (by simp)]
  cases step with
  | into n => exact absurd rfl (hstep n)
  | here | close | up => exact ⟨_, by rw [walk, walk]⟩

/-- A directory cannot be made for something missing when the walk to the path above stops because of that. -/
theorem makeOne_eq_missing_iff (hsteps : p.steps ≠ []) :
    (∃ shown, fs.makeOne p = .error (.refused .missing shown)) ↔
      p.Legal ∧ stopOf (fs.follow false p.parent.route) = some .missing := by
  obtain ⟨init, step, hinit⟩ := (List.eq_nil_or_concat p.steps).resolve_left hsteps
  have hthrough : p = p.parent.through ([] ++ [step]) :=
    (Path.parent_through_of_getLast? (by rw [hinit]; simp)).symm
  constructor
  · rintro ⟨shown, hmake⟩
    have hnull : p.hasNull = false := by
      rw [Bool.eq_false_iff]
      intro hnull
      simp [makeOne, hnull] at hmake
    have hshort : ¬ p.IsLong := by
      intro hlong
      simp [makeOne, hnull, hlong] at hmake
    have hlegal := Path.legal_of_not_isLong hnull hshort
    refine ⟨hlegal, ?_⟩
    cases hstop : stopOf (fs.follow false p.parent.route) with
    | some cause =>
      have hrefused := makeOne_of_stop (hthrough ▸ hlegal) (by simpa using hstop)
      rw [← hthrough, hmake] at hrefused
      obtain ⟨rfl, -⟩ : Cause.missing = cause ∧ shown = p := by simpa using hrefused
      rfl
    | none =>
      -- in a directory the last step is refused for another cause, or not at all
      obtain ⟨d, hd⟩ := stopOf_eq_none_iff.mp hstop
      rw [makeOne, hnull, if_neg (by simp), if_neg hshort] at hmake
      split at hmake
      · rw [hd] at hmake
        dsimp only at hmake
        split at hmake
        · simp at hmake
        · split at hmake <;> simp at hmake
      · rename_i hlast
        have hnone : ∀ n, step ≠ .into n := by
          rintro n rfl
          exact hlast n (by rw [hinit]; simp)
        obtain ⟨e, he⟩ := exists_follow_step hd hnone
        rw [show p.parent.through [step] = p from hthrough.symm] at he
        rw [he] at hmake
        simp at hmake
  · rintro ⟨hlegal, hstop⟩
    have hrefused := makeOne_of_stop (hthrough ▸ hlegal) (by simpa using hstop)
    rw [← hthrough] at hrefused
    exact ⟨_, hrefused⟩

/-! ## Directories missing one above another -/

/-- So many directories at least are missing on a path, from its end upwards, that cannot be made before others above them. -/
def Lacks (fs : FileSystem) (p : Path) : Nat → Prop
  | 0 => True
  | n + 1 => (p.Legal ∧ p.steps ≠ [] ∧ stopOf (fs.follow false p.parent.route) = some .missing) ∧ fs.Lacks p.parent n

/-- More is missing above a path than can be made in one go. -/
def OutOfReach (fs : FileSystem) (p : Path) : Prop := fs.Lacks p makeLimit

theorem exists_succ_of_not_lacks (h : ¬ fs.Lacks p calls) : ∃ n, calls = n + 1 :=
  Nat.exists_eq_succ_of_ne_zero (by rintro rfl; exact h trivial)

/-- A path does not lack more directories than it has steps. -/
theorem length_of_lacks (h : fs.Lacks p calls) : calls ≤ p.steps.length := by
  induction calls generalizing p with
  | zero => exact Nat.zero_le _
  | succ calls ih =>
    obtain ⟨⟨-, hsteps, -⟩, habove⟩ := h
    have hlength := ih habove
    have hpos := List.length_pos_iff.mpr hsteps
    simp only [Path.parent, List.length_dropLast] at hlength
    omega

/-- A path to a directory lacks none. -/
theorem not_lacks_of_directory {e : Location} (h : fs.follow false p.route = .ok (.directory e)) : ¬ fs.Lacks p (calls + 1) := by
  rintro ⟨⟨-, hsteps, hstop⟩, -⟩
  obtain ⟨init, step, hinit⟩ := (List.eq_nil_or_concat p.steps).resolve_left hsteps
  have hthrough : p.parent.through [step] = p := Path.parent_through_of_getLast? (by rw [hinit]; simp)
  have hgo := follow_through_of_stop hstop (List.cons_ne_nil step [])
  rw [hthrough, h] at hgo
  cases hgo

/-- Behind a directory a path does not lack more than the names that it goes on through. -/
theorem length_of_lacks_append {names : List Name} {e : Location} (hq : fs.follow false q.route = .ok (.directory e))
    (h : fs.Lacks (q.append names) calls) : calls ≤ names.length := by
  induction names using List.reverseRecOn generalizing calls with
  | nil =>
    cases calls with
    | zero => exact Nat.zero_le _
    | succ calls =>
      rw [Path.append_nil] at h
      exact absurd h (not_lacks_of_directory hq)
  | append_singleton names n ih =>
    cases calls with
    | zero => exact Nat.zero_le _
    | succ calls =>
      have habove := h.2
      rw [Path.parent_append _ (by simp), List.dropLast_concat] at habove
      rw [List.length_append, List.length_singleton]
      exact Nat.succ_le_succ (ih habove)

/-- Where something is missing above, a path that does not lack too much does not lack it there. -/
theorem not_lacks_above {steps : List Step} {step : Step} (hp : (q.through (steps ++ [step])).Legal)
    (hstop : stopOf (fs.follow false (q.through steps).route) = some .missing)
    (h : ¬ fs.Lacks (q.through (steps ++ [step])) (calls + 1)) : ¬ fs.Lacks (q.through steps) calls := by
  intro habove
  refine h ⟨⟨hp, by simp [Path.through], ?_⟩, ?_⟩
  · rwa [Path.parent_through_concat]
  · rwa [Path.parent_through_concat]

/-- A walk that stops because something is missing did so when there was less. -/
theorem Grown.stopOf_walk {dir : Location} {links : Nat} {steps : List Step} (hg : Grown fs after)
    (h : stopOf (after.walk false links dir steps) = some .missing) : stopOf (fs.walk false links dir steps) = some .missing := by
  fun_induction FileSystem.walk fs false links dir steps with
  | case1 => rwa [FileSystem.walk] at h
  | case2 _ _ _ ih | case3 _ _ _ ih | case4 _ _ _ ih =>
    rw [FileSystem.walk] at h
    exact ih h
  | case5 _ _ _ _ hc => simp at hc
  | case6 links dir n rest hc hfits =>
    rw [FileSystem.walk, if_neg hc, if_pos hfits] at h
    exact h
  | case7 | case8 => rfl
  | case9 links dir n hfits content hget | case10 links dir n rest _ hfits content hget hne =>
    obtain ⟨new, hnew⟩ := hg.file hget
    rw [FileSystem.walk, if_neg (by simp), if_neg hfits, hnew] at h
    simp_all [stopOf]
  | case11 links dir n rest hc hfits hget ih =>
    rw [FileSystem.walk, if_neg hc, if_neg hfits, hg.directory hget] at h
    exact ih h
  | case12 dir n rest hc hfits target hget =>
    rw [FileSystem.walk, if_neg hc, if_neg hfits, hg.link hget] at h
    exact h
  | case13 dir n rest hc hfits target hget links route ih =>
    rw [FileSystem.walk, if_neg hc, if_neg hfits, hg.link hget] at h
    exact ih h

theorem Grown.stopOf_follow {route : Route} (hg : Grown fs after) (h : stopOf (after.follow false route) = some .missing) :
    stopOf (fs.follow false route) = some .missing := by
  have hsame : after.start route = fs.start route := by rw [start, start, hg.standing]
  rw [follow_eq] at h ⊢
  rw [hsame] at h
  by_cases hstart : fs.isDirectoryAt (fs.start route) = true
  · have hdir : after.isDirectoryAt (fs.start route) = true := decide_eq_true (hg.directory (of_decide_eq_true hstart))
    rw [if_pos hdir] at h
    rw [if_pos hstart]
    exact hg.stopOf_walk h
  · rw [if_neg hstart]
    rfl

/-- What a path lacks when more has been made it lacked before. -/
theorem Grown.lacks (hg : Grown fs after) (h : after.Lacks p calls) : fs.Lacks p calls := by
  induction calls generalizing p with
  | zero => trivial
  | succ calls ih =>
    obtain ⟨⟨hlegal, hsteps, hstop⟩, habove⟩ := h
    exact ⟨⟨hlegal, hsteps, hg.stopOf_follow hstop⟩, ih habove⟩

/-! ## Too many calls -/

/-- The making of one directory calls nothing within itself. -/
theorem ensureOne_ne_tooDeep (work : Recursion) : (fs.ensureOne p).error? ≠ some (.tooDeep work) := by
  intro h
  rcases ensureOne_error h with ⟨-, heq⟩ | ⟨cause, heq⟩ <;> cases heq

/-- A directory for which something is missing is not made. -/
theorem ensureOne_of_missing {shown : Path} (h : fs.makeOne p = .error (.refused .missing shown)) :
    fs.ensureOne p = ⟨fs, some (.refused .missing shown)⟩ := by
  rw [ensureOne, h]

theorem ensureOne_eq_missing {left : FileSystem} {shown : Path} (h : fs.ensureOne p = ⟨left, some (.refused .missing shown)⟩) :
    left = fs ∧ fs.makeOne p = .error (.refused .missing shown) := by
  unfold ensureOne at h
  split at h
  · cases h
  · cases h
    exact ⟨rfl, by assumption⟩
  · rename_i hother _
    split at h
    · cases h
    · cases h
      exact absurd rfl hother
    · rename_i hask
      cases h
      cases askDirectory_error hask
  · rename_i hother _
    cases h
    exact absurd rfl (hother _ _)

/-- Where something is missing above, what is above is made first. -/
theorem ensureWithin_of_missing {above : FileSystem} {shown : Path} (hsteps : p.steps ≠ [])
    (h : fs.makeOne p = .error (.refused .missing shown)) :
    (fs.ensureWithin p.parent calls = ⟨above, none⟩ → fs.ensureWithin p (calls + 1) = above.ensureOne p) ∧
      ∀ error, fs.ensureWithin p.parent calls = ⟨above, some error⟩ → fs.ensureWithin p (calls + 1) = ⟨above, some error⟩ := by
  refine ⟨fun habove => ?_, fun error habove => ?_⟩ <;>
  · rw [ensureWithin, ensureOne_of_missing h]
    simp [hsteps, habove]

/-- Nothing is made above unless something is missing there. -/
theorem ensureWithin_of_ne_missing (h : ∀ shown, (fs.ensureOne p).error? ≠ some (.refused .missing shown)) :
    fs.ensureWithin p (calls + 1) = fs.ensureOne p := by
  rw [ensureWithin]
  split
  · rename_i left shown heq
    exact absurd (congrArg Attempt.error? heq) (h shown)
  · rfl

/-- Too many calls stand within one another exactly where a path lacks as many directories. -/
theorem ensureWithin_tooDeep_iff : (fs.ensureWithin p calls).error? = some (.tooDeep .making) ↔ fs.Lacks p calls := by
  induction calls generalizing p with
  | zero => simp [ensureWithin, Lacks]
  | succ calls ih =>
    rw [Lacks]
    by_cases hmissing : p.steps ≠ [] ∧ ∃ shown, fs.makeOne p = .error (.refused .missing shown)
    · obtain ⟨hsteps, shown, hmake⟩ := hmissing
      have hlacks := (makeOne_eq_missing_iff hsteps).mp ⟨shown, hmake⟩
      rw [and_iff_right ⟨hlacks.1, hsteps, hlacks.2⟩, ← ih]
      cases habove : fs.ensureWithin p.parent calls with
      | mk above error? =>
        cases error? with
        | none =>
          rw [(ensureWithin_of_missing hsteps hmake).1 habove]
          simp [ensureOne_ne_tooDeep]
        | some error => rw [(ensureWithin_of_missing hsteps hmake).2 error habove]
    · refine iff_of_false ?_ fun hlacks => hmissing ⟨hlacks.1.2.1, (makeOne_eq_missing_iff hlacks.1.2.1).mpr ⟨hlacks.1.1, hlacks.1.2.2⟩⟩
      rw [ensureWithin]
      split
      · rename_i left shown hone
        obtain ⟨-, hmake⟩ := ensureOne_eq_missing hone
        have hsteps : p.steps = [] := not_not.mp fun hsteps => hmissing ⟨hsteps, shown, hmake⟩
        simp [hsteps]
      · exact ensureOne_ne_tooDeep _

theorem ensure_tooDeep_iff : (fs.ensure p).error? = some (.tooDeep .making) ↔ fs.OutOfReach p := ensureWithin_tooDeep_iff

/-- Where too much is missing nothing is made. -/
theorem files_of_lacks (h : fs.Lacks p calls) : (fs.ensureWithin p calls).files = fs := by
  induction calls generalizing p with
  | zero => rfl
  | succ calls ih =>
    obtain ⟨⟨hlegal, hsteps, hstop⟩, habove⟩ := h
    obtain ⟨shown, hmake⟩ := (makeOne_eq_missing_iff hsteps).mpr ⟨hlegal, hstop⟩
    have herror := ensureWithin_tooDeep_iff.mpr habove
    have hfiles := ih habove
    cases hdone : fs.ensureWithin p.parent calls with
    | mk above error? =>
      rw [hdone] at herror hfiles
      rw [(ensureWithin_of_missing hsteps hmake).2 _ (hdone.trans (congrArg _ herror))]
      exact hfiles

theorem ensure_of_outOfReach (h : fs.OutOfReach p) : fs.ensure p = ⟨fs, some (.tooDeep .making)⟩ := by
  have herror := ensure_tooDeep_iff.mpr h
  have hfiles : (fs.ensure p).files = fs := files_of_lacks h
  exact congrArg₂ Attempt.mk hfiles herror

end ClassChain.Files.FileSystem

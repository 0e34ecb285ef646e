import ClassChain.Proofs.Files.Change
import ClassChain.Proofs.Files.Reach
import ClassChain.Proofs.Files.Way

/-!
# Making directories

What comes of making a directory and all that are missing above it, where a path leads to a directory and goes on over a way on which
no link stands. The directories made are the open places of the way, whatever is there already (`ensure_through`). All is well
exactly when the way is open. If it is not, an error tells so; if all open places are directories already, the error is the one that
`stopCause` gives, and else it depends on what is missing.
-/

namespace ClassChain.Files.FileSystem

variable {fs : FileSystem} {e : Location} {p q : Path} {steps : List Step}

/-! ## One directory -/

/-- Where a directory is, nothing is made. -/
theorem ensureOne_of_directory (hp : p.Legal) (h : fs.follow false p.route = .ok (.directory e)) : fs.ensureOne p = ⟨fs, none⟩ := by
  have hmake : fs.makeOne p = .error (.refused .exists p) := by
    rw [makeOne, hp.not_null, if_neg (by simp), if_neg (Nat.not_lt.mpr hp.short)]
    split
    · rename_i n hlast
      have hthrough : p.parent.through [.into n] = p := Path.parent_through_of_getLast? hlast
      -- the walk to the last step came to a directory, or it would have stopped there
      cases hstop : stopOf (fs.follow false p.parent.route) with
      | some cause =>
        have := follow_through_of_stop hstop (List.cons_ne_nil (.into n) [])
        rw [hthrough, h] at this
        cases this
      | none =>
        obtain ⟨d, hd⟩ := stopOf_eq_none_iff.mp hstop
        rw [hd]
        dsimp only
        by_cases hfits : n.fits = true
        · rw [if_neg (by simp [hfits]), if_pos]
          cases hget : fs.get? (d ++ [n]) with
          | some entry => rfl
          | none =>
            have := (follow_into false hd hfits).1 hget
            rw [hthrough, h] at this
            cases this
        · have := follow_into_of_not_fits hd (by simpa using hfits)
          rw [hthrough, h] at this
          cases this
    · rw [h]
  have hask : fs.askDirectory p = .ok true := by
    rw [askDirectory, isDirectory, resolve_of_legal hp, h, hp.not_null]
    rfl
  rw [ensureOne, hmake]
  dsimp only
  rw [hask]

/-- A directory is refused for the cause that stops the walk to it. -/
theorem ensureOne_of_refused {cause : Cause} (hp : p.Legal) (hmake : fs.makeOne p = .error (.refused cause p))
    (hc : cause ≠ .missing) (hstop : stopOf (fs.follow false p.route) = some cause.onward) :
    fs.ensureOne p = ⟨fs, some (.refused cause p)⟩ := by
  have hask : fs.askDirectory p = if cause = .nameTooLong then .error (.refused .nameTooLong p) else .ok false := by
    rw [askDirectory, isDirectory, resolve_of_legal hp, hp.not_null]
    cases hfollow : fs.follow false p.route with
    | error c =>
      rw [hfollow] at hstop
      obtain rfl : c = cause.onward := by simpa [stopOf] using hstop
      cases cause <;> rfl
    | ok place =>
      rw [hfollow] at hstop
      cases place <;> cases cause <;> simp [stopOf, Cause.onward] at hstop ⊢
  rw [ensureOne, hmake]
  cases cause with
  | missing => exact absurd rfl hc
  | _ => dsimp only; rw [hask]; rfl

/-- What the making of a directory comes to when it is behind another. -/
structure Ensured (fs : FileSystem) (e : Location) (steps : List Step) (p : Path) (done : Attempt) : Prop where
  takes : (Change.directories (fs.openPlaces e steps)).Takes fs done.files
  made : fs.isOpen e steps = true → done.error? = none
  refused : fs.isOpen e steps = false → ∃ cause shown, done.error? = some (.refused cause shown) ∧ cause ≠ .missing
  told : fs.isOpen e steps = false → (∀ m ∈ fs.openPlaces e steps, fs.get? m = some .directory) →
    done.error? = some (.refused (fs.stopCause e steps) p)

theorem Ensured.error?_ne_missing {done : Attempt} (h : Ensured fs e steps p done) (shown : Path) :
    done.error? ≠ some (.refused .missing shown) := by
  intro hmissing
  cases hopen : fs.isOpen e steps with
  | true =>
    rw [h.made hopen] at hmissing
    cases hmissing
  | false =>
    obtain ⟨cause, shown', herror, hcause⟩ := h.refused hopen
    rw [hmissing] at herror
    cases herror
    exact hcause rfl

/-- Directories are made only where nothing or a directory stands. -/
theorem openPlaces_suits (fs : FileSystem) (place : Location) (steps : List Step) :
    (Change.directories (fs.openPlaces place steps)).Suits fs := by
  intro m e hm
  obtain ⟨hplace, rfl⟩ := Change.directories_eq_some.mp hm
  exact Or.inl ⟨rfl, get?_of_mem_openPlaces hplace⟩

/-- Making directories where they all are changes nothing. -/
theorem takes_directories {places : List Location} (h : ∀ m ∈ places, fs.get? m = some .directory) :
    (Change.directories places).Takes fs fs where
  standing := rfl
  get? m := by
    by_cases hm : m ∈ places <;> simp [Change.directories, hm, h]

/-- All directories of an open way are there. -/
theorem ensured_of_directories (hopen : fs.isOpen e steps = true)
    (hdir : ∀ m ∈ fs.openPlaces e steps, fs.get? m = some .directory) :
    Ensured fs e steps p ⟨fs, none⟩ where
  takes := takes_directories hdir
  made _ := rfl
  refused hclosed := by rw [hopen] at hclosed; cases hclosed
  told hclosed := by rw [hopen] at hclosed; cases hclosed

/-- A way is stopped behind directories that are there. -/
theorem ensured_of_stopped {cause : Cause} (hclosed : fs.isOpen e steps = false)
    (hdir : ∀ m ∈ fs.openPlaces e steps, fs.get? m = some .directory)
    (hcause : fs.stopCause e steps = cause) (hne : cause ≠ .missing) :
    Ensured fs e steps p ⟨fs, some (.refused cause p)⟩ where
  takes := takes_directories hdir
  made hopen := by rw [hclosed] at hopen; cases hopen
  refused _ := ⟨cause, p, rfl, hne⟩
  told _ _ := by rw [hcause]

theorem makeOne_into {n : Name} (hq : fs.follow false q.route = .ok (.directory e)) (hp : (q.through [.into n]).Legal) :
    fs.makeOne (q.through [.into n]) =
      if !n.fits then .error (.refused .nameTooLong (q.through [.into n]))
      else if (fs.get? (e ++ [n])).isSome then .error (.refused .exists (q.through [.into n]))
      else .ok (fs.makeDirectory (e ++ [n])) := by
  have hparent : (q.through [.into n]).parent = q := by simpa using Path.parent_through_concat q [] (.into n)
  rw [makeOne, hp.not_null, if_neg (by simp), if_neg (Nat.not_lt.mpr hp.short), hparent, hq]
  simp [Path.through]

/-- One name behind a directory: the directory is there, or can be made, or something else is in its place. -/
theorem ensured_into {n : Name} (hq : fs.follow false q.route = .ok (.directory e)) (hp : (q.through [.into n]).Legal)
    (hlink : ∀ t, fs.get? (e ++ [n]) ≠ some (.link t)) :
    Ensured fs e [.into n] (q.through [.into n]) (fs.ensureOne (q.through [.into n])) := by
  have hmake := makeOne_into hq hp
  by_cases hfits : n.fits = true
  · obtain ⟨-, hdirectory, hfile⟩ := follow_into false hq hfits
    rw [if_neg (by simp [hfits])] at hmake
    cases hget : fs.get? (e ++ [n]) with
    | none =>
      have hadmits : fs.admits e n = true := admits_iff.mpr ⟨hfits, Or.inl hget⟩
      have hfree := isFree_of_absent (stands_of_follow hq) hget hfits
      rw [ensureOne, hmake, hget]
      refine ⟨?_, fun _ => rfl, by simp [isOpen, hadmits], by simp [isOpen, hadmits]⟩
      rw [openPlaces, if_pos hadmits]
      exact takes_makeDirectory hfree
    | some entry =>
      rw [hget] at hmake
      cases entry with
      | directory =>
        have hadmits : fs.admits e n = true := admits_iff.mpr ⟨hfits, Or.inr hget⟩
        rw [ensureOne_of_directory hp (hdirectory hget)]
        exact ensured_of_directories (by simp [isOpen, hadmits]) (by simp [openPlaces, hadmits, hget])
      | link t => exact absurd hget (hlink t)
      | file content =>
        have hadmits : ¬ fs.admits e n = true := by simp [admits_iff, hget]
        rw [ensureOne_of_refused hp hmake (by simp) (by rw [hfile content hget]; rfl)]
        exact ensured_of_stopped (by simp [isOpen, hadmits]) (by simp [openPlaces, hadmits])
          (by simp [stopCause, hadmits, hfits]) (by simp)
  · have hadmits : ¬ fs.admits e n = true := by simp [admits_iff, hfits]
    have hgo := follow_into_of_not_fits hq (by simpa using hfits)
    rw [if_pos (by simpa using hfits)] at hmake
    rw [ensureOne_of_refused hp hmake (by simp) (by rw [hgo]; rfl)]
    exact ensured_of_stopped (by simp [isOpen, hadmits]) (by simp [openPlaces, hadmits])
      (by simp [stopCause, hadmits, hfits]) (by simp)

/-- One step behind a directory. -/
theorem ensured_step {step : Step} (hq : fs.follow false q.route = .ok (.directory e)) (hp : (q.through [step]).Legal)
    (hlink : ∀ m ∈ places e [step], ∀ t, fs.get? m ≠ some (.link t)) :
    Ensured fs e [step] (q.through [step]) (fs.ensureOne (q.through [step])) := by
  cases step with
  | here | close | up =>
    rw [ensureOne_of_directory hp (follow_through_places hq (by simp [places]))]
    exact ensured_of_directories (by simp [isOpen]) (by simp [openPlaces])
  | into n => exact ensured_into hq hp (hlink _ (by simp [places]))

/-! ## A directory and all above it -/

theorem Attempt.eq_of_made {done : Attempt} (h : done.error? = none) : done = ⟨done.files, none⟩ := by
  rw [← h]

theorem Attempt.eq_of_error {done : Attempt} {error : Error} (h : done.error? = some error) : done = ⟨done.files, some error⟩ := by
  rw [← h]

theorem ensure_of_ne_missing (h : ∀ shown, (fs.ensureOne p).error? ≠ some (.refused .missing shown)) :
    fs.ensure p = fs.ensureOne p := ensureWithin_of_ne_missing h

/-- Directories that are made where they can be close no way and open none. -/
theorem opens_congr {after : FileSystem} {places : List Location} (htakes : (Change.directories places).Takes fs after)
    (hplaces : ∀ m ∈ places, fs.get? m = none ∨ fs.get? m = some .directory) (m : Location) :
    (after.get? m = none ∨ after.get? m = some .directory) ↔ (fs.get? m = none ∨ fs.get? m = some .directory) := by
  rw [htakes.get?]
  by_cases hm : m ∈ places
  · simp [Change.directories, hm, hplaces m hm]
  · simp [Change.directories, hm]

/-- One more directory, once those above are made. -/
theorem Ensured.concat {d : Location} {above : FileSystem} {step : Step} {done : Attempt} (hopen : fs.isOpen d steps = true)
    (habove : (Change.directories (fs.openPlaces d steps)).Takes fs above) (h : Ensured above (land d steps) [step] p done) :
    Ensured fs d (steps ++ [step]) p done := by
  have hsame := opens_congr habove fun m hm => get?_of_mem_openPlaces hm
  have hisOpen : fs.isOpen d (steps ++ [step]) = above.isOpen (land d steps) [step] := by
    rw [isOpen_append, hopen, Bool.true_and, isOpen_congr fun m _ => hsame m]
  have hopenPlaces : fs.openPlaces d (steps ++ [step]) = fs.openPlaces d steps ++ above.openPlaces (land d steps) [step] := by
    rw [openPlaces_append, if_pos hopen, openPlaces_congr fun m _ => hsame m]
  have hcause : fs.stopCause d (steps ++ [step]) = above.stopCause (land d steps) [step] := by
    rw [stopCause_append_of_isOpen _ hopen, stopCause_congr fun m _ => hsame m]
  refine ⟨?_, fun ho => h.made (hisOpen ▸ ho), fun ho => h.refused (hisOpen ▸ ho), fun ho hdir => ?_⟩
  · rw [hopenPlaces, ← Change.directories_append]
    exact habove.andThen h.takes
  · rw [hcause]
    refine h.told (hisOpen ▸ ho) fun m hm => ?_
    rw [habove.get?, hdir m (hopenPlaces ▸ List.mem_append_right _ hm)]
    by_cases hmade : m ∈ fs.openPlaces d steps <;> simp [Change.directories, hmade]

/-- One step behind a directory that was made with all above it. -/
theorem Ensured.step {d : Location} {step : Step} {done : Attempt} (h : Ensured fs d steps (q.through steps) done)
    (hq : fs.follow false q.route = .ok (.directory d)) (hopen : fs.isOpen d steps = true)
    (hp : ((q.through steps).through [step]).Legal)
    (hlast : ∀ m ∈ places (land d steps) [step], ∀ t, fs.get? m ≠ some (.link t)) :
    Ensured done.files (land d steps) [step] ((q.through steps).through [step])
      (done.files.ensureOne ((q.through steps).through [step])) := by
  have hsuits := openPlaces_suits fs d steps
  have hdir : ∀ m ∈ places d steps, done.files.get? m = some .directory := by
    intro m hm
    rw [h.takes.get?, openPlaces_of_isOpen hopen]
    simp [Change.directories, hm]
  have hgo := follow_through_places ((h.takes.grown hsuits).follow hq) hdir
  exact ensured_step hgo hp fun m hm => h.takes.get?_ne_link hsuits (hlast m hm)

/-- The making of a directory, with all that are missing above it, behind a directory on a way without links. -/
theorem ensureWithin_through {d : Location} {calls : Nat} (hq : fs.follow false q.route = .ok (.directory d))
    (hp : (q.through steps).Legal) (hlink : ∀ m ∈ places d steps, ∀ t, fs.get? m ≠ some (.link t))
    (hreach : ¬ fs.Lacks (q.through steps) calls) :
    Ensured fs d steps (q.through steps) (fs.ensureWithin (q.through steps) calls) := by
  obtain ⟨calls, rfl⟩ := exists_succ_of_not_lacks hreach
  induction steps using List.reverseRecOn generalizing calls with
  | nil =>
    rw [Path.through_nil] at hp ⊢
    have hone := ensureOne_of_directory hp hq
    rw [ensureWithin_of_ne_missing (by simp [hone]), hone]
    exact ensured_of_directories rfl (by simp)
  | append_singleton init step ih =>
    have hinit : (q.through init).Legal := by simpa using hp.parent
    have hlinks : ∀ m ∈ places d init, ∀ t, fs.get? m ≠ some (.link t) := fun m hm =>
      hlink m (by rw [places_append]; exact List.mem_append_left _ hm)
    have hlast : ∀ m ∈ places (land d init) [step], ∀ t, fs.get? m ≠ some (.link t) := fun m hm =>
      hlink m (by rw [places_append]; exact List.mem_append_right _ hm)
    have hthrough : q.through (init ++ [step]) = (q.through init).through [step] := (Path.through_through _ _ _).symm
    obtain ⟨left, hleft⟩ := exists_follow_through hq
    have hwalk := hleft false init (by simp)
    cases walk_way left hlinks with
    | through hplaces hopen hout =>
      -- all that is above is there, and one step is left
      have habove : (Change.directories (fs.openPlaces d init)).Takes fs fs :=
        takes_directories fun m hm => hplaces m (openPlaces_subset _ hm)
      have hstep := ensured_step (hwalk.trans hout) (hthrough ▸ hp) hlast
      rw [← hthrough] at hstep
      rw [ensureWithin_of_ne_missing hstep.error?_ne_missing]
      exact .concat hopen habove hstep
    | missing hm hnone hout =>
      -- what is above is made first, and then there is one step left, or the error is the one from above
      have hmake := makeOne_of_stop hp (hwalk ▸ hout)
      have hreach' := not_lacks_above hp (hwalk ▸ hout) hreach
      obtain ⟨calls, rfl⟩ := exists_succ_of_not_lacks hreach'
      have habove := ih hinit hlinks calls hreach'
      have hparent : fs.ensureWithin (q.through (init ++ [step])).parent (calls + 1) = fs.ensureWithin (q.through init) (calls + 1) := by
        rw [Path.parent_through_concat]
      obtain ⟨hgoes, hstays⟩ := ensureWithin_of_missing (by simp [Path.through]) hmake
      cases hopen : fs.isOpen d init with
      | true =>
        rw [hgoes (hparent.trans (Attempt.eq_of_made (habove.made hopen)))]
        exact .concat hopen habove.takes (hthrough ▸ habove.step hq hopen (hthrough ▸ hp) hlast)
      | false =>
        obtain ⟨cause, shown, herror, hcause⟩ := habove.refused hopen
        have hopenPlaces := openPlaces_append_of_closed [step] hopen
        rw [hstays _ (hparent.trans (Attempt.eq_of_error herror))]
        refine ⟨hopenPlaces ▸ habove.takes, by simp [isOpen_append, hopen], fun _ => ⟨cause, shown, rfl, hcause⟩, fun _ hdir => ?_⟩
        exact absurd (hdir _ (hopenPlaces ▸ hm)) (by simp [hnone])
    | stopped hopen hplaces hout =>
      -- the walk to what is above is stopped, and so is the walk to the last step
      have hmake := makeOne_of_stop hp (hwalk ▸ hout)
      have hgo := follow_through_of_stop (hwalk ▸ hout) (List.cons_ne_nil step [])
      rw [Path.through_through] at hgo
      have hone := ensureOne_of_refused hp hmake (Cause.onward_ne_missing _) (by rw [hgo, Cause.onward_onward]; rfl)
      have hopenPlaces := openPlaces_append_of_closed [step] hopen
      rw [ensureWithin_of_ne_missing (by simp [hone, Cause.onward_ne_missing]), hone]
      exact ensured_of_stopped (by simp [isOpen_append, hopen]) (hopenPlaces ▸ hplaces) (stopCause_append hopen (by simp))
        (Cause.onward_ne_missing _)

theorem ensure_through {d : Location} (hq : fs.follow false q.route = .ok (.directory d)) (hp : (q.through steps).Legal)
    (hlink : ∀ m ∈ places d steps, ∀ t, fs.get? m ≠ some (.link t)) (hreach : ¬ fs.OutOfReach (q.through steps)) :
    Ensured fs d steps (q.through steps) (fs.ensure (q.through steps)) := ensureWithin_through hq hp hlink hreach

/-! ## Where a directory is missing before the place at which none can be -/

/-- A way with nothing at one of its first places, which are open, is walked up to nothing. -/
theorem stopOf_through_of_missing {d m : Location} {front back : List Step} (hq : fs.follow false q.route = .ok (.directory d))
    (hlink : ∀ m ∈ places d (front ++ back), ∀ t, fs.get? m ≠ some (.link t)) (hopen : fs.isOpen d front = true)
    (hm : m ∈ places d front) (hnone : fs.get? m = none) :
    stopOf (fs.follow false (q.through (front ++ back)).route) = some .missing := by
  obtain ⟨left, hleft⟩ := exists_follow_through hq
  have hmem : m ∈ fs.openPlaces d (front ++ back) := by
    rw [openPlaces_append, openPlaces_of_isOpen hopen]
    exact List.mem_append_left _ hm
  rw [hleft false _ (by simp)]
  cases walk_way left hlink with
  | through hplaces _ _ => exact absurd (hplaces m (openPlaces_subset _ hmem)) (by simp [hnone])
  | missing _ _ hout => exact hout
  | stopped _ hplaces _ => exact absurd (hplaces m hmem) (by simp [hnone])

/-- Behind a directory that is missing the place at which none can be is told of itself, whatever was to be made behind it. -/
theorem ensureWithin_of_stopped_late {d m : Location} {front back : List Step} {step : Step} {calls : Nat}
    (hq : fs.follow false q.route = .ok (.directory d)) (hp : (q.through (front ++ [step] ++ back)).Legal)
    (hlink : ∀ m ∈ places d (front ++ [step] ++ back), ∀ t, fs.get? m ≠ some (.link t))
    (hopen : fs.isOpen d front = true) (hm : m ∈ places d front) (hnone : fs.get? m = none)
    (hstop : fs.isOpen (land d front) [step] = false) (hreach : ¬ fs.Lacks (q.through (front ++ [step] ++ back)) calls) :
    (fs.ensureWithin (q.through (front ++ [step] ++ back)) calls).error? =
      some (.refused (fs.stopCause (land d front) [step]) (q.through (front ++ [step]))) := by
  obtain ⟨calls, rfl⟩ := exists_succ_of_not_lacks hreach
  induction back using List.reverseRecOn generalizing calls with
  | nil =>
    rw [List.append_nil] at hp hlink hreach ⊢
    have hfront : ∀ m ∈ places d front, ∀ t, fs.get? m ≠ some (.link t) := fun m hm =>
      hlink m (by rw [places_append]; exact List.mem_append_left _ hm)
    have hthrough : q.through (front ++ [step]) = (q.through front).through [step] := (Path.through_through _ _ _).symm
    have hmissing := @stopOf_through_of_missing fs q d m front [] hq (by simpa using hfront) hopen hm hnone
    rw [List.append_nil] at hmissing
    have habove := ensureWithin_through hq (by simpa using hp.parent) hfront (not_lacks_above hp hmissing hreach)
    have hstep := habove.step hq hopen (hthrough ▸ hp) fun m hm => hlink m (by rw [places_append]; exact List.mem_append_right _ hm)
    have hparent : fs.ensureWithin (q.through (front ++ [step])).parent calls = fs.ensureWithin (q.through front) calls := by
      rw [Path.parent_through_concat]
    rw [(ensureWithin_of_missing (by simp [Path.through]) (makeOne_of_stop hp hmissing)).1
      (hparent.trans (Attempt.eq_of_made (habove.made hopen))), hthrough]
    -- the directories made above neither open nor close the last step
    have hsame := opens_congr habove.takes fun m hm => get?_of_mem_openPlaces hm
    have hclosed : (fs.ensureWithin (q.through front) calls).files.isOpen (land d front) [step] = false :=
      (isOpen_congr fun m _ => hsame m).trans hstop
    rw [hstep.told hclosed, stopCause_congr fun m _ => hsame m]
    intro m hm
    cases step with
    | here | close | up => simp [openPlaces] at hm
    | into n =>
      rw [isOpen, isOpen, Bool.and_true] at hclosed
      simp [openPlaces, hclosed] at hm
  | append_singleton back last ih =>
    rw [← List.append_assoc] at hp hlink hreach ⊢
    have hparent : (q.through (front ++ [step] ++ back ++ [last])).parent = q.through (front ++ [step] ++ back) :=
      Path.parent_through_concat ..
    have hlinks : ∀ m ∈ places d (front ++ [step] ++ back), ∀ t, fs.get? m ≠ some (.link t) := fun m hm =>
      hlink m (by rw [places_append]; exact List.mem_append_left _ hm)
    have hmissing : stopOf (fs.follow false (q.through (front ++ [step] ++ back)).route) = some .missing := by
      rw [List.append_assoc] at hlinks ⊢
      exact stopOf_through_of_missing hq hlinks hopen hm hnone
    have hreach' := not_lacks_above hp hmissing hreach
    obtain ⟨calls, rfl⟩ := exists_succ_of_not_lacks hreach'
    have habove := ih (hparent ▸ hp.parent) hlinks calls hreach'
    rw [(ensureWithin_of_missing (by simp [Path.through]) (makeOne_of_stop hp hmissing)).2 _
      (hparent ▸ Attempt.eq_of_error habove)]

theorem ensure_of_stopped_late {d m : Location} {front back : List Step} {step : Step}
    (hq : fs.follow false q.route = .ok (.directory d)) (hp : (q.through (front ++ [step] ++ back)).Legal)
    (hlink : ∀ m ∈ places d (front ++ [step] ++ back), ∀ t, fs.get? m ≠ some (.link t))
    (hopen : fs.isOpen d front = true) (hm : m ∈ places d front) (hnone : fs.get? m = none)
    (hstop : fs.isOpen (land d front) [step] = false) (hreach : ¬ fs.OutOfReach (q.through (front ++ [step] ++ back))) :
    (fs.ensure (q.through (front ++ [step] ++ back))).error? =
      some (.refused (fs.stopCause (land d front) [step]) (q.through (front ++ [step]))) :=
  ensureWithin_of_stopped_late hq hp hlink hopen hm hnone hstop hreach

/-! ## Where no directory can be made -/

/-- Behind a path that is too long nothing is made. -/
theorem ensure_of_long (fs : FileSystem) (hnull : p.hasNull = false) (hlong : pathLimit < p.text.utf8ByteSize) :
    fs.ensure p = ⟨fs, some (.refused .nameTooLong p)⟩ := by
  have hmake : fs.makeOne p = .error (.refused .nameTooLong p) := by
    rw [makeOne, hnull, if_neg (by simp), if_pos hlong]
  have hask : fs.askDirectory p = .error (.refused .nameTooLong p) := by
    rw [askDirectory, resolve, if_pos hlong, hnull]
    rfl
  have hone : fs.ensureOne p = ⟨fs, some (.refused .nameTooLong p)⟩ := by
    rw [ensureOne, hmake]
    dsimp only
    rw [hask]
  rw [ensure_of_ne_missing (by simp [hone]), hone]

/-- A program that stands where no directory is makes none from there. -/
theorem ensureWithin_of_lost {anchor : Anchor} {calls : Nat}
    (hlost : fs.isDirectoryAt (fs.start ⟨anchor != .standing, []⟩) = false) (hp : Path.Legal ⟨anchor, steps⟩)
    (hreach : ¬ fs.Lacks ⟨anchor, steps⟩ calls) :
    fs.ensureWithin ⟨anchor, steps⟩ calls = ⟨fs, some (.refused .missing ⟨anchor, []⟩)⟩ := by
  have hfollow : ∀ steps, fs.follow false (Path.mk anchor steps).route = .error .missing := fun steps => by
    rw [follow_eq]
    exact if_neg (by simpa [start, Path.route] using hlost)
  have hmake : ∀ steps, Path.Legal ⟨anchor, steps⟩ → fs.makeOne ⟨anchor, steps⟩ = .error (.refused .missing ⟨anchor, steps⟩) := by
    intro steps hp
    rw [makeOne, hp.not_null, if_neg (by simp), if_neg (Nat.not_lt.mpr hp.short)]
    split
    · rw [Path.parent, hfollow]
    · rw [hfollow]
  obtain ⟨calls, rfl⟩ := exists_succ_of_not_lacks hreach
  induction steps using List.reverseRecOn generalizing calls with
  | nil =>
    rw [ensureWithin, ensureOne, hmake [] hp]
    simp
  | append_singleton init step ih =>
    have hparent : (Path.mk anchor (init ++ [step])).parent = ⟨anchor, init⟩ := by simp [Path.parent]
    have hstop : stopOf (fs.follow false (Path.mk anchor init).route) = some .missing := by
      rw [hfollow]
      rfl
    have hreach' : ¬ fs.Lacks ⟨anchor, init⟩ calls := not_lacks_above (q := ⟨anchor, []⟩) hp hstop hreach
    obtain ⟨calls, rfl⟩ := exists_succ_of_not_lacks hreach'
    have habove := ih (hparent ▸ hp.parent) calls hreach'
    exact (ensureWithin_of_missing (by simp) (hmake _ hp)).2 _ (hparent ▸ habove)

theorem ensure_of_lost {anchor : Anchor} (hlost : fs.isDirectoryAt (fs.start ⟨anchor != .standing, []⟩) = false)
    (hp : Path.Legal ⟨anchor, steps⟩) (hreach : ¬ fs.OutOfReach ⟨anchor, steps⟩) :
    fs.ensure ⟨anchor, steps⟩ = ⟨fs, some (.refused .missing ⟨anchor, []⟩)⟩ := ensureWithin_of_lost hlost hp hreach

end ClassChain.Files.FileSystem

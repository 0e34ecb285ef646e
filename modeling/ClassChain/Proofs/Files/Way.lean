import ClassChain.Proofs.Files.Walk

/-!
# Ways on which no link stands

Steps from a directory pass places (`places`) and end at one (`land`). Where each of these places holds a directory the walk goes to
the end (`walk_places`); where no link stands on the way it can else only be stopped by the first place that is not a directory:
by one that holds nothing, or by one at which no directory can be (`walk_way`).

A way is open (`isOpen`) if a directory is or can be at each of its places, and `openPlaces` are its places up to the first at which
none can be. Both depend on files, links and names alone: directories that come in between open and close nothing
(`isOpen_congr`, `openPlaces_congr`).
-/

namespace ClassChain.Files

/-- Where steps end that start in a directory. -/
def land (dir : Location) : List Step → Location
  | [] => dir
  | .here :: rest => land dir rest
  | .close :: rest => land dir rest
  | .up :: rest => land dir.dropLast rest
  | .into n :: rest => land (dir ++ [n]) rest

/-- The places that steps go into. -/
def places (dir : Location) : List Step → List Location
  | [] => []
  | .here :: rest => places dir rest
  | .close :: rest => places dir rest
  | .up :: rest => places dir.dropLast rest
  | .into n :: rest => (dir ++ [n]) :: places (dir ++ [n]) rest

@[simp] theorem land_nil (dir : Location) : land dir [] = dir := rfl

@[simp] theorem places_nil (dir : Location) : places dir [] = [] := rfl

theorem land_append (dir : Location) (front back : List Step) : land dir (front ++ back) = land (land dir front) back := by
  fun_induction land dir front with
  | case1 => rfl
  | case2 _ _ ih | case3 _ _ ih | case4 _ _ ih | case5 _ _ _ ih => rw [List.cons_append, land, ih]

theorem places_append (dir : Location) (front back : List Step) :
    places dir (front ++ back) = places dir front ++ places (land dir front) back := by
  fun_induction places dir front with
  | case1 => rfl
  | case2 _ _ ih | case3 _ _ ih | case4 _ _ ih | case5 _ _ _ ih => rw [List.cons_append, places, ih]; rfl

theorem land_names (dir : Location) (names : List Name) : land dir (names.map Step.into) = dir ++ names := by
  induction names generalizing dir with
  | nil => simp
  | cons n names ih => rw [List.map_cons, land, ih, List.append_assoc, List.singleton_append]

/-- The places of steps into names are the beginnings of these names. -/
theorem mem_places_names {dir m : Location} {names : List Name} :
    m ∈ places dir (names.map Step.into) ↔ ∃ front, front ≠ [] ∧ front <+: names ∧ m = dir ++ front := by
  induction names generalizing dir with
  | nil =>
    simp only [List.map_nil, places, List.not_mem_nil, false_iff]
    rintro ⟨front, hne, hpre, -⟩
    exact hne (List.prefix_nil.mp hpre)
  | cons n names ih =>
    rw [List.map_cons, places, List.mem_cons, ih]
    constructor
    · rintro (rfl | ⟨front, -, hpre, rfl⟩)
      · exact ⟨[n], by simp, by simp, rfl⟩
      · exact ⟨n :: front, by simp, List.cons_prefix_cons.mpr ⟨rfl, hpre⟩, by simp⟩
    · rintro ⟨front, hne, hfirst, rfl⟩
      obtain ⟨k, front, rfl⟩ := List.exists_cons_of_ne_nil hne
      obtain ⟨rfl, hpre⟩ := List.cons_prefix_cons.mp hfirst
      by_cases hfront : front = []
      · exact Or.inl (by rw [hfront])
      · exact Or.inr ⟨front, hfront, hpre, by simp⟩

/-! ## Walking past directories -/

/-- The cause for one who would go on from a place at which no directory can be. -/
def Cause.onward : Cause → Cause
  | .nameTooLong => .nameTooLong
  | _ => .notDirectory

theorem Cause.onward_onward (cause : Cause) : cause.onward.onward = cause.onward := by cases cause <;> rfl

theorem Cause.onward_ne_missing (cause : Cause) : cause.onward ≠ .missing := by cases cause <;> simp [Cause.onward]

namespace FileSystem

variable {fs : FileSystem} {dir : Location}

/-- Above an entry there are directories all the way up. -/
theorem get?_of_stands_below {l m : Location} (h : fs.get? (l ++ m) ≠ none) (hm : m ≠ []) : fs.get? l = some .directory := by
  induction m using List.reverseRecOn with
  | nil => exact absurd rfl hm
  | append_singleton m n ih =>
    rw [← List.append_assoc] at h
    have hup := get?_above h
    by_cases hnil : m = []
    · rwa [hnil, List.append_nil] at hup
    · exact ih (by simp [hup]) hnil

/-- The names that lead to an entry all fit. -/
theorem fits_of_mem {l : Location} {names : List Name} (h : fs.get? (l ++ names) ≠ none) : ∀ n ∈ names, n.fits = true := by
  intro n hn
  obtain ⟨front, back, rfl⟩ := List.append_of_mem hn
  have hstands : fs.get? ((l ++ front) ++ [n]) ≠ none := by
    by_cases hback : back = []
    · simpa [hback] using h
    · rw [get?_of_stands_below (m := back) (by simpa using h) hback]
      simp
  exact fits_of_get? hstands

/-- Where each place holds a directory the walk goes on from the end of the steps. -/
theorem walk_places {links : Nat} {steps rest : List Step} (hdir : ∀ m ∈ places dir steps, fs.get? m = some .directory) :
    fs.walk false links dir (steps ++ rest) = fs.walk false links (land dir steps) rest := by
  fun_induction places dir steps with
  | case1 => rfl
  | case2 dir steps ih | case3 dir steps ih | case4 dir steps ih =>
    rw [List.cons_append, walk, land]
    exact ih hdir
  | case5 dir n steps ih =>
    have hn := hdir (dir ++ [n]) (by simp)
    have hsome : fs.get? (dir ++ [n]) ≠ none := by simp [hn]
    rw [List.cons_append, walk, land, if_neg (by simp), fits_of_get? hsome, hn]
    exact ih fun m hm => hdir m (by simp [hm])

/-- To go into a directory and up again leads nowhere, however often it is done. -/
theorem walk_there_and_back {links : Nat} {n : Name} (hdir : fs.get? (dir ++ [n]) = some .directory) (k : Nat) (rest : List Step) :
    fs.walk false links dir ((List.replicate k [.into n, .up]).flatten ++ rest) = fs.walk false links dir rest := by
  induction k with
  | zero => rfl
  | succ k ih =>
    have hback : land dir [.into n, .up] = dir := by simp [land]
    rw [List.replicate_succ, List.flatten_cons, List.append_assoc, walk_places (by simpa [places] using hdir), hback, ih]

/-- A path that leads to a directory leads on over places that hold directories. -/
theorem follow_through_places {p : Path} {steps : List Step} (h : fs.follow false p.route = .ok (.directory dir))
    (hdir : ∀ m ∈ places dir steps, fs.get? m = some .directory) :
    fs.follow false (p.through steps).route = .ok (.directory (land dir steps)) := by
  obtain ⟨left, hleft⟩ := exists_follow_through h
  have hend := @walk_places fs dir left steps [] hdir
  rw [List.append_nil, walk] at hend
  exact (hleft false steps (by simp)).trans hend

/-- A path that leads to a directory leads on to a directory below it. -/
theorem follow_append_of_directory {p : Path} {names : List Name} (h : fs.follow false p.route = .ok (.directory dir))
    (hdir : fs.get? (dir ++ names) = some .directory) :
    fs.follow false (p.append names).route = .ok (.directory (dir ++ names)) := by
  rw [Path.append_eq_through, ← land_names]
  refine follow_through_places h fun m hm => ?_
  obtain ⟨front, -, ⟨back, rfl⟩, rfl⟩ := mem_places_names.mp hm
  rw [← List.append_assoc] at hdir
  by_cases hback : back = []
  · simpa [hback] using hdir
  · exact get?_of_stands_below (hdir ▸ Option.some_ne_none _) hback

/-- A path that leads to a directory leads on to a file below it, for whoever goes there. -/
theorem follow_append_of_file {p : Path} {names : List Name} {content : ByteArray} (making : Bool)
    (h : fs.follow false p.route = .ok (.directory dir)) (hfile : fs.get? (dir ++ names) = some (.file content)) :
    fs.follow making (p.append names).route = .ok (.file (dir ++ names) content) := by
  rcases List.eq_nil_or_concat names with rfl | ⟨front, n, rfl⟩
  · have hdir : fs.get? dir = some .directory := stands_of_follow h
    rw [List.append_nil, hdir] at hfile
    cases hfile
  · rw [List.concat_eq_append, ← List.append_assoc] at hfile ⊢
    have hsome : fs.get? (dir ++ front ++ [n]) ≠ none := by
      rw [hfile]
      simp
    have hfront := follow_append_of_directory h (get?_above hsome)
    rw [Path.append_concat]
    exact (follow_into making hfront (fits_of_get? hsome)).2.2 content hfile

/-! ## Open ways -/

/-- A directory is or can be under a name. -/
def admits (fs : FileSystem) (dir : Location) (n : Name) : Bool :=
  n.fits && (fs.get? (dir ++ [n]) = none || fs.isDirectoryAt (dir ++ [n]))

/-- A directory is or can be at each place of the steps. -/
def isOpen (fs : FileSystem) (dir : Location) : List Step → Bool
  | [] => true
  | .here :: rest => isOpen fs dir rest
  | .close :: rest => isOpen fs dir rest
  | .up :: rest => isOpen fs dir.dropLast rest
  | .into n :: rest => fs.admits dir n && isOpen fs (dir ++ [n]) rest

/-- The places of the steps up to the first at which no directory can be. -/
def openPlaces (fs : FileSystem) (dir : Location) : List Step → List Location
  | [] => []
  | .here :: rest => openPlaces fs dir rest
  | .close :: rest => openPlaces fs dir rest
  | .up :: rest => openPlaces fs dir.dropLast rest
  | .into n :: rest => if fs.admits dir n then (dir ++ [n]) :: openPlaces fs (dir ++ [n]) rest else []

theorem admits_iff {n : Name} :
    fs.admits dir n = true ↔ n.fits = true ∧ (fs.get? (dir ++ [n]) = none ∨ fs.get? (dir ++ [n]) = some .directory) := by
  simp [admits, isDirectoryAt]

@[simp] theorem isOpen_nil : fs.isOpen dir [] = true := rfl

@[simp] theorem openPlaces_nil : fs.openPlaces dir [] = [] := rfl

theorem isOpen_append (front back : List Step) :
    fs.isOpen dir (front ++ back) = (fs.isOpen dir front && fs.isOpen (land dir front) back) := by
  fun_induction isOpen fs dir front with
  | case1 => rfl
  | case2 _ _ ih | case3 _ _ ih | case4 _ _ ih => rw [List.cons_append, isOpen, ih]; rfl
  | case5 dir n rest ih => rw [List.cons_append, isOpen, ih, Bool.and_assoc]; rfl

/-- The open places of two ways, one after the other; the second counts only if the first is open. -/
theorem openPlaces_append (front back : List Step) :
    fs.openPlaces dir (front ++ back) =
      fs.openPlaces dir front ++ if fs.isOpen dir front then fs.openPlaces (land dir front) back else [] := by
  fun_induction openPlaces fs dir front with
  | case1 => rfl
  | case2 _ _ ih | case3 _ _ ih | case4 _ _ ih => rw [List.cons_append, openPlaces, ih]; rfl
  | case5 dir n rest hn ih =>
    rw [List.cons_append, openPlaces, if_pos hn, ih, isOpen, hn, land]
    rfl
  | case6 dir n rest hn =>
    rw [List.cons_append, openPlaces, if_neg hn, isOpen]
    simp [hn]

/-- Where the first steps are stopped no later place is open. -/
theorem openPlaces_append_of_closed {front : List Step} (back : List Step) (h : fs.isOpen dir front = false) :
    fs.openPlaces dir (front ++ back) = fs.openPlaces dir front := by
  rw [openPlaces_append, h, if_neg (by simp), List.append_nil]

theorem openPlaces_subset (steps : List Step) : fs.openPlaces dir steps ⊆ places dir steps := by
  fun_induction openPlaces fs dir steps with
  | case1 => exact List.nil_subset _
  | case2 _ _ ih | case3 _ _ ih | case4 _ _ ih => rw [places]; exact ih
  | case5 dir n rest hn ih => exact List.cons_subset_cons _ ih
  | case6 dir n rest hn => exact List.nil_subset _

/-- On an open way every place is open. -/
theorem openPlaces_of_isOpen {steps : List Step} (h : fs.isOpen dir steps = true) :
    fs.openPlaces dir steps = places dir steps := by
  fun_induction openPlaces fs dir steps with
  | case1 => rfl
  | case2 _ _ ih | case3 _ _ ih | case4 _ _ ih => rw [places]; exact ih h
  | case5 dir n rest hn ih =>
    rw [isOpen, Bool.and_eq_true] at h
    rw [places, ih h.2]
  | case6 dir n rest hn =>
    rw [isOpen, Bool.and_eq_true] at h
    exact absurd h.1 hn

/-- Where nothing stands below a place, names that fit are an open way. -/
theorem isOpen_names {names : List Name} (hfits : ∀ n ∈ names, n.fits = true)
    (hempty : ∀ below, below ≠ [] → fs.get? (dir ++ below) = none) : fs.isOpen dir (names.map Step.into) = true := by
  induction names generalizing dir with
  | nil => rfl
  | cons n names ih =>
    obtain ⟨hn, hrest⟩ := List.forall_mem_cons.mp hfits
    have hadmits : fs.admits dir n = true := admits_iff.mpr ⟨hn, Or.inl (hempty [n] (by simp))⟩
    rw [List.map_cons, isOpen, hadmits, Bool.true_and]
    refine ih hrest fun below _ => ?_
    rw [List.append_assoc]
    exact hempty ([n] ++ below) (by simp)

/-- At an open place nothing stands or a directory. -/
theorem get?_of_mem_openPlaces {steps : List Step} {m : Location} (h : m ∈ fs.openPlaces dir steps) :
    fs.get? m = none ∨ fs.get? m = some .directory := by
  fun_induction openPlaces fs dir steps with
  | case1 => simp at h
  | case2 _ _ ih | case3 _ _ ih | case4 _ _ ih => exact ih h
  | case5 dir n rest hn ih =>
    rcases List.mem_cons.mp h with rfl | h
    · exact (admits_iff.mp hn).2
    · exact ih h
  | case6 dir n rest hn => simp at h

section Congruence

variable {after : FileSystem}

theorem admits_congr {n : Name}
    (h : (after.get? (dir ++ [n]) = none ∨ after.get? (dir ++ [n]) = some .directory) ↔
      (fs.get? (dir ++ [n]) = none ∨ fs.get? (dir ++ [n]) = some .directory)) :
    after.admits dir n = fs.admits dir n := by
  rw [Bool.eq_iff_iff, admits_iff, admits_iff, h]

/-- Whether a way is open depends only on what stands at its places and is no directory. -/
theorem isOpen_congr {steps : List Step}
    (h : ∀ m ∈ places dir steps, (after.get? m = none ∨ after.get? m = some .directory) ↔
      (fs.get? m = none ∨ fs.get? m = some .directory)) :
    after.isOpen dir steps = fs.isOpen dir steps := by
  fun_induction places dir steps with
  | case1 => rfl
  | case2 _ _ ih | case3 _ _ ih | case4 _ _ ih => rw [isOpen, isOpen]; exact ih h
  | case5 dir n rest ih =>
    rw [isOpen, isOpen, admits_congr (h _ (by simp)), ih fun m hm => h m (by simp [hm])]

theorem openPlaces_congr {steps : List Step}
    (h : ∀ m ∈ places dir steps, (after.get? m = none ∨ after.get? m = some .directory) ↔
      (fs.get? m = none ∨ fs.get? m = some .directory)) :
    after.openPlaces dir steps = fs.openPlaces dir steps := by
  fun_induction places dir steps with
  | case1 => rfl
  | case2 _ _ ih | case3 _ _ ih | case4 _ _ ih => rw [openPlaces, openPlaces]; exact ih h
  | case5 dir n rest ih =>
    rw [openPlaces, openPlaces, admits_congr (h _ (by simp)), ih fun m hm => h m (by simp [hm])]

end Congruence

/-- Why no directory can be at the first place of the steps at which none can be: the name is too long, or something else stands
there; it is in the way if steps go on from it. -/
def stopCause (fs : FileSystem) (dir : Location) : List Step → Cause
  | [] => .exists
  | .here :: rest => stopCause fs dir rest
  | .close :: rest => stopCause fs dir rest
  | .up :: rest => stopCause fs dir.dropLast rest
  | .into n :: rest =>
    if fs.admits dir n then stopCause fs (dir ++ [n]) rest
    else if !n.fits then .nameTooLong
    else if rest = [] then .exists
    else .notDirectory

theorem stopCause_congr {after : FileSystem} {steps : List Step}
    (h : ∀ m ∈ places dir steps, (after.get? m = none ∨ after.get? m = some .directory) ↔
      (fs.get? m = none ∨ fs.get? m = some .directory)) :
    after.stopCause dir steps = fs.stopCause dir steps := by
  fun_induction places dir steps with
  | case1 => rfl
  | case2 _ _ ih | case3 _ _ ih | case4 _ _ ih => rw [stopCause, stopCause]; exact ih h
  | case5 dir n rest ih =>
    rw [stopCause, stopCause, admits_congr (h _ (by simp)), ih fun m hm => h m (by simp [hm])]

/-- Where the first steps stop no walk the later ones do. -/
theorem stopCause_append_of_isOpen {front : List Step} (back : List Step) (h : fs.isOpen dir front = true) :
    fs.stopCause dir (front ++ back) = fs.stopCause (land dir front) back := by
  fun_induction isOpen fs dir front with
  | case1 => rfl
  | case2 _ _ ih | case3 _ _ ih | case4 _ _ ih => rw [List.cons_append, stopCause, ih h]; rfl
  | case5 dir n rest ih =>
    rw [Bool.and_eq_true] at h
    rw [List.cons_append, stopCause, if_pos h.1, ih h.2]
    rfl

/-- Where the first steps stop a walk they stop it the same way whatever steps follow. -/
theorem stopCause_append {front back : List Step} (h : fs.isOpen dir front = false) (hback : back ≠ []) :
    fs.stopCause dir (front ++ back) = (fs.stopCause dir front).onward := by
  fun_induction stopCause fs dir front with
  | case1 => simp at h
  | case2 _ _ ih | case3 _ _ ih | case4 _ _ ih => rw [List.cons_append, stopCause]; exact ih h
  | case5 dir n rest hn ih =>
    rw [isOpen, hn, Bool.true_and] at h
    rw [List.cons_append, stopCause, if_pos hn, ih h]
  | case6 dir n rest hn hfits => rw [List.cons_append, stopCause, if_neg hn, if_pos hfits]; rfl
  | case7 dir n hn hfits => rw [List.cons_append, stopCause, if_neg hn, if_neg hfits, if_neg (by simpa using hback)]; rfl
  | case8 dir n rest hn hfits hrest => rw [List.cons_append, stopCause, if_neg hn, if_neg hfits, if_neg (by simp [hrest])]; rfl

/-- The steps are stopped behind a place at which nothing stands. -/
def BlockedLate (fs : FileSystem) (dir : Location) (steps : List Step) : Prop :=
  fs.isOpen dir steps = false ∧ ∃ m ∈ fs.openPlaces dir steps, fs.get? m = none

/-- Unless steps are stopped late, a way that is not open passes directories until it is stopped. -/
theorem get?_of_not_blockedLate {steps : List Step} (h : ¬ fs.BlockedLate dir steps) (hopen : fs.isOpen dir steps = false) :
    ∀ m ∈ fs.openPlaces dir steps, fs.get? m = some .directory := by
  intro m hm
  rcases get?_of_mem_openPlaces hm with hnone | hdir
  · exact absurd ⟨hopen, m, hm, hnone⟩ h
  · exact hdir

/-- What can become of a walk on which no link stands: it goes to the end past directories; or it meets a place with nothing at it;
or all places are directories up to one at which none can be, which stops it. -/
inductive Walked (fs : FileSystem) (dir : Location) (steps : List Step) (outcome : Except Cause Place) : Prop where
  | through : (∀ m ∈ places dir steps, fs.get? m = some .directory) → fs.isOpen dir steps = true →
      outcome = .ok (.directory (land dir steps)) → Walked fs dir steps outcome
  | missing {m : Location} : m ∈ fs.openPlaces dir steps → fs.get? m = none → stopOf outcome = some .missing →
      Walked fs dir steps outcome
  | stopped : fs.isOpen dir steps = false → (∀ m ∈ fs.openPlaces dir steps, fs.get? m = some .directory) →
      stopOf outcome = some (fs.stopCause dir steps).onward → Walked fs dir steps outcome

/-- A walk that begins with a step into a directory is what becomes of it from there. -/
theorem Walked.into {n : Name} {rest : List Step} {outcome : Except Cause Place} (hfits : n.fits = true)
    (hdir : fs.get? (dir ++ [n]) = some .directory) (h : Walked fs (dir ++ [n]) rest outcome) :
    Walked fs dir (.into n :: rest) outcome := by
  have hadmits : fs.admits dir n = true := admits_iff.mpr ⟨hfits, Or.inr hdir⟩
  have hopenPlaces : fs.openPlaces dir (.into n :: rest) = (dir ++ [n]) :: fs.openPlaces (dir ++ [n]) rest := by
    rw [openPlaces, if_pos hadmits]
  have hisOpen : fs.isOpen dir (.into n :: rest) = fs.isOpen (dir ++ [n]) rest := by rw [isOpen, hadmits, Bool.true_and]
  cases h with
  | through hplaces hopen hout => exact .through (List.forall_mem_cons.mpr ⟨hdir, hplaces⟩) (hisOpen.trans hopen) hout
  | missing hm hnone hout => exact .missing (hopenPlaces ▸ List.mem_cons_of_mem _ hm) hnone hout
  | stopped hopen hplaces hout =>
    refine .stopped (hisOpen.trans hopen) (hopenPlaces ▸ List.forall_mem_cons.mpr ⟨hdir, hplaces⟩) ?_
    rw [stopCause, if_pos hadmits]
    exact hout

/-- A walk on a way without links. -/
theorem walk_way (links : Nat) {steps : List Step} (hlink : ∀ m ∈ places dir steps, ∀ t, fs.get? m ≠ some (.link t)) :
    Walked fs dir steps (fs.walk false links dir steps) := by
  fun_induction places dir steps with
  | case1 =>
    rw [walk]
    exact .through (by simp) rfl rfl
  | case2 dir rest ih | case3 dir rest ih | case4 dir rest ih =>
    rw [walk]
    -- a step that goes into nothing changes neither the places nor what is said of them
    cases ih hlink with
    | through hplaces hopen hout => exact .through hplaces hopen hout
    | missing hm hnone hout => exact .missing hm hnone hout
    | stopped hopen hplaces hout => exact .stopped hopen hplaces hout
  | case5 dir n rest ih =>
    rw [walk, if_neg (by simp)]
    by_cases hfits : n.fits = true
    · rw [if_neg (by simp [hfits])]
      cases hget : fs.get? (dir ++ [n]) with
      | none =>
        have hadmits : fs.admits dir n = true := admits_iff.mpr ⟨hfits, Or.inl hget⟩
        refine .missing (by rw [openPlaces, if_pos hadmits]; exact List.mem_cons_self) hget ?_
        dsimp only
        split <;> rfl
      | some entry =>
        cases entry with
        | directory => exact .into hfits hget (ih fun m hm => hlink m (by simp [hm]))
        | link t => exact absurd hget (hlink (dir ++ [n]) (by simp) t)
        | file content =>
          have hadmits : ¬ fs.admits dir n = true := by simp [admits_iff, hget]
          refine .stopped (by simp [isOpen, hadmits]) (by simp [openPlaces, hadmits]) ?_
          have hcause : fs.stopCause dir (.into n :: rest) = if rest = [] then .exists else .notDirectory := by
            rw [stopCause, if_neg hadmits, if_neg (by simp [hfits])]
          rw [hcause]
          dsimp only
          split <;> rfl
    · have hadmits : ¬ fs.admits dir n = true := by simp [admits_iff, hfits]
      rw [if_pos (by simpa using hfits)]
      refine .stopped (by simp [isOpen, hadmits]) (by simp [openPlaces, hadmits]) ?_
      rw [stopCause, if_neg hadmits, if_pos (by simpa using hfits)]
      rfl

end FileSystem

end ClassChain.Files

import ClassChain.Proofs.Rewrite.Delivery

/-!
# Deliveries are independent

A delivery sets directories where nothing or a directory stands, and a file at its own goal (`delivering_eq_some`). So it closes and
opens no place on the way of another file and puts no directory in its place, and the other file is delivered as before
(`Ready.same_of_takes`): deliveries are independent (`independent_delivery`). What is told of a file does not change either, but for
one thing: where a way is stopped late, behind a place at which nothing stands, the words of the failure depend on whether another
delivery has made a directory there.
-/

namespace ClassChain.Rewrite

open Files (Path FileSystem Location Name Change)

/-- Two results differ at most in the words of the failure. -/
structure Result.Alike (r r' : Result) : Prop where
  input : r.input = r'.input
  output : r.output = r'.output
  eligible : r.eligible = r'.eligible
  changed : r.changed = r'.changed
  status : r.status = r'.status
  told : r.message?.isSome = r'.message?.isSome

theorem Result.Alike.refl (r : Result) : r.Alike r := ⟨rfl, rfl, rfl, rfl, rfl, rfl⟩

/-- Of two files in a directory neither stands above the other. -/
theorem Present.eq_of_beginnings {dir : Path} {inn : Location} {content : List Name → ByteArray}
    {a b names : List Name} {fs : FileSystem}
    (ha : Present dir inn content a fs) (hb : Present dir inn content b fs) (hap : a <+: names) (hbp : b <+: names) : a = b := by
  have hbelow : ∀ {x y : List Name}, Present dir inn content x fs → Present dir inn content y fs → x <+: y → x = y := by
    rintro x y hx hy ⟨rest, rfl⟩
    by_cases hrest : rest = []
    · simp [hrest]
    · have hstands : fs.get? (inn ++ x ++ rest) ≠ none := by
        rw [List.append_assoc, hy.file]
        simp
      have hdir := FileSystem.get?_of_stands_below hstands hrest
      rw [hx.file] at hdir
      cases hdir
  rcases List.prefix_or_prefix_of_prefix hap hbp with h | h
  · exact hbelow ha hb h
  · exact (hbelow hb ha h).symm

namespace Site

variable {σ : Site} {s : Settings} {fs fs₀ after : FileSystem} {content : List Name → ByteArray} {names other : List Name}
  {code? : Option String}

/-! ## What a delivery sets -/

/-- A delivery sets directories at the open places of its way, and a file at its goal. -/
theorem delivering_eq_some {bytes : ByteArray} {m : Location} {e : Files.Entry}
    (h : σ.delivering fs names code? bytes m = some e) :
    e = .directory ∧ m ∈ fs.openPlaces σ.place (σ.way names) ∨
      (∃ new, e = .file new) ∧ m = σ.outAt ++ σ.goal fs names code? ∧ σ.directoryAt fs names m = false := by
  unfold delivering at h
  split at h
  · cases h
  rcases Change.andThen_eq_some.mp h with hfile | ⟨-, hdir⟩
  · cases hrefusal : σ.refusal? fs names code? with
    | some error =>
      rw [hrefusal] at hfile
      cases hfile
    | none =>
      rw [hrefusal] at hfile
      obtain ⟨rfl, rfl⟩ := Change.file_eq_some.mp hfile
      exact Or.inr ⟨⟨_, rfl⟩, rfl, (σ.refusal?_eq_none_iff.mp hrefusal).2.2.2.2.2⟩
  · obtain ⟨hm, rfl⟩ := Change.directories_eq_some.mp hdir
    exact Or.inl ⟨rfl, hm⟩

theorem Ready.delivering_suits (h : σ.Ready content names fs) (code? : Option String) (bytes : ByteArray) :
    (σ.delivering fs names code? bytes).Suits fs := by
  intro m e he
  rcases delivering_eq_some he with ⟨rfl, hm⟩ | ⟨hfile, rfl, hdir⟩
  · exact Or.inl ⟨rfl, FileSystem.get?_of_mem_openPlaces hm⟩
  · refine Or.inr ⟨hfile, ?_⟩
    rw [directoryAt, Bool.or_eq_false_iff] at hdir
    have hlink := h.noLink_below (σ.goal fs names code?)
    cases hget : fs.get? (σ.outAt ++ σ.goal fs names code?) with
    | none => exact Or.inl rfl
    | some entry =>
      cases entry with
      | file old => exact Or.inr ⟨old, rfl⟩
      | link t => exact absurd hget (hlink t)
      | directory => simp [FileSystem.isDirectoryAt, hget] at hdir

/-- A delivery of one file sets no file on the way of another, nor below its place. -/
theorem Ready.ne_goal (h : σ.Ready content names fs) (ho : σ.Ready content other fs) (hne : names ≠ other) {m : Location}
    (hm : m = σ.outAt ++ σ.goal fs other code?) (hdir : σ.directoryAt fs other m = false) :
    m ∉ Files.places σ.place (σ.way names) ∧ ∀ k, names <+: k → m ≠ σ.outAt ++ k := by
  have hgoal : ∀ k, m = σ.outAt ++ k → other <+: k := by
    rintro k hk
    obtain rfl : σ.goal fs other code? = k := by simpa using hm.symm.trans hk
    exact σ.prefix_goal fs other code?
  constructor
  · intro hplace
    rcases mem_places_way.mp hplace with hbefore | ⟨front, -, hfront, hk⟩
    · have : m ∈ Files.places σ.place (σ.way other) := mem_places_way.mpr (Or.inl hbefore)
      simp [directoryAt, this] at hdir
    · exact hne (h.eq_of_beginnings ho.toPresent List.prefix_rfl ((hgoal front hk).trans (hfront.trans (List.dropLast_prefix _))))
  · intro k hk heq
    exact hne (h.eq_of_beginnings ho.toPresent hk (hgoal k heq))

/-! ## What another delivery leaves as it is -/

/-- For the delivery of a file the two file systems are the same. -/
structure Same (σ : Site) (names : List Name) (fs after : FileSystem) : Prop where
  opens : ∀ m ∈ Files.places σ.place (σ.way names), (after.get? m = none ∨ after.get? m = some .directory) ↔
    (fs.get? m = none ∨ fs.get? m = some .directory)
  directory : ∀ k, names <+: k → σ.directoryAt after names (σ.outAt ++ k) = σ.directoryAt fs names (σ.outAt ++ k)

theorem Same.goal (h : σ.Same names fs after) (code? : Option String) : σ.goal after names code? = σ.goal fs names code? := by
  rw [Site.goal, Site.goal, h.directory names List.prefix_rfl]

theorem Same.refusal? (h : σ.Same names fs after) (code? : Option String) :
    σ.refusal? after names code? = σ.refusal? fs names code? := by
  rw [Site.refusal?, Site.refusal?, h.goal, FileSystem.isOpen_congr h.opens, FileSystem.stopCause_congr h.opens,
    h.directory _ (σ.prefix_goal fs names code?)]

theorem Same.delivering (h : σ.Same names fs after) (code? : Option String) (bytes : ByteArray) :
    σ.delivering after names code? bytes = σ.delivering fs names code? bytes := by
  rw [Site.delivering, Site.delivering, h.refusal?, h.goal, FileSystem.openPlaces_congr h.opens]

/-- A way that is stopped late was so before others were made. -/
theorem Same.blockedLate (h : σ.Same names fs after) (hg : FileSystem.Grown fs after)
    (hlate : after.BlockedLate σ.place (σ.way names)) : fs.BlockedLate σ.place (σ.way names) := by
  obtain ⟨hopen, m, hm, hnone⟩ := hlate
  rw [FileSystem.isOpen_congr h.opens] at hopen
  rw [FileSystem.openPlaces_congr h.opens] at hm
  exact ⟨hopen, m, hm, hg.get?_eq_none hnone⟩

/-- The delivery of one file leaves all as it is for that of another. -/
theorem Ready.same_of_takes {bytes : ByteArray} (h : σ.Ready content names fs) (ho : σ.Ready content other fs) (hne : names ≠ other)
    (htakes : (σ.delivering fs other code? bytes).Takes fs after) : σ.Same names fs after where
  opens m hm := by
    rw [htakes.get?]
    cases hδ : σ.delivering fs other code? bytes m with
    | none => rw [Option.none_or]
    | some e =>
      rcases delivering_eq_some hδ with ⟨rfl, hopen⟩ | ⟨-, hgoal, hdir⟩
      · simp [FileSystem.get?_of_mem_openPlaces hopen]
      · exact absurd hm (h.ne_goal ho hne hgoal hdir).1
  directory k hk := by
    have hsame : σ.delivering fs other code? bytes (σ.outAt ++ k) = none ∨ σ.outAt ++ k ∈ Files.places σ.place (σ.way names) := by
      cases hδ : σ.delivering fs other code? bytes (σ.outAt ++ k) with
      | none => exact Or.inl rfl
      | some e =>
        rcases delivering_eq_some hδ with ⟨rfl, hopen⟩ | ⟨-, hgoal, hdir⟩
        · -- a directory made there is on the way to the target
          rcases mem_places_way.mp (FileSystem.openPlaces_subset _ hopen) with hbefore | ⟨front, -, hfront, heq⟩
          · exact Or.inr (mem_places_way.mpr (Or.inl hbefore))
          · obtain rfl : k = front := by simpa using heq
            exact absurd (h.eq_of_beginnings ho.toPresent (hk.trans (hfront.trans (List.dropLast_prefix _))) List.prefix_rfl) hne
        · exact absurd rfl ((h.ne_goal ho hne hgoal hdir).2 k hk)
    rw [directoryAt, directoryAt]
    rcases hsame with hnone | hplace
    · rw [FileSystem.isDirectoryAt, FileSystem.isDirectoryAt, htakes.get?, hnone, Option.none_or]
    · simp [hplace]

/-- The delivery of one file leaves another ready. -/
theorem Ready.keep {bytes : ByteArray} (h : σ.Ready content names fs) (ho : σ.Ready content other fs) (hne : names ≠ other)
    (htakes : (σ.delivering fs other code? bytes).Takes fs after) : σ.Ready content names after := by
  have hsuits := ho.delivering_suits code? bytes
  refine ⟨h.toPresent.keep htakes hsuits ?_, (htakes.grown hsuits).follow h.base_leads,
    fun m hm t => htakes.get?_ne_link hsuits (h.noLink_before m hm) t,
    fun below t => htakes.get?_ne_link hsuits (h.noLink_below below) t, fun hlacks => h.reach ((htakes.grown hsuits).lacks hlacks)⟩
  rw [Option.eq_none_iff_forall_ne_some]
  intro e he
  rcases delivering_eq_some he with ⟨rfl, hopen⟩ | ⟨-, hgoal, hdir⟩
  · -- no directory is made in place of a file
    rcases FileSystem.get?_of_mem_openPlaces hopen with hold | hold <;> (rw [h.file] at hold; cases hold)
  · -- the goal of the other file is below the other file, if the two directories are the same
    have hsame := σ.eq_of_append_eq hgoal
    rw [← hsame] at hgoal
    have hbelow : other <+: names := by
      rw [List.append_cancel_left hgoal]
      exact σ.prefix_goal fs other code?
    exact absurd (h.eq_of_beginnings ho.toPresent List.prefix_rfl hbelow) hne

/-- What two deliveries set they set alike. -/
theorem Ready.agrees {code?' : Option String} {bytes bytes' : ByteArray} (h : σ.Ready content names fs)
    (ho : σ.Ready content other fs) (hne : names ≠ other) :
    (σ.delivering fs names code? bytes).Agrees (σ.delivering fs other code?' bytes') := by
  intro m e f he hf
  rcases delivering_eq_some he with ⟨rfl, hopen⟩ | ⟨⟨new, rfl⟩, hgoal, hdir⟩
  · rcases delivering_eq_some hf with ⟨rfl, -⟩ | ⟨-, hgoal', hdir'⟩
    · rfl
    · exact absurd (FileSystem.openPlaces_subset _ hopen) (h.ne_goal ho hne hgoal' hdir').1
  · rcases delivering_eq_some hf with ⟨-, hopen'⟩ | ⟨-, hgoal', hdir'⟩
    · exact absurd (FileSystem.openPlaces_subset _ hopen') (ho.ne_goal h hne.symm hgoal hdir).1
    · exact absurd hgoal ((h.ne_goal ho hne hgoal' hdir').2 _ (σ.prefix_goal fs names code?))

/-! ## Independence -/

/-- What the rewriting of a file into another directory changes. -/
def change (σ : Site) (s : Settings) (fs : FileSystem) (content : List Name → ByteArray) (names : List Name) : Change :=
  match fault? s (σ.dir.append names) (content names) with
  | some _ => .none
  | none => σ.delivering fs names (newCode? s (σ.dir.append names) (content names)) (content names)

/-- What is told of it. -/
def result (σ : Site) (s : Settings) (fs : FileSystem) (content : List Name → ByteArray) (names : List Name) : Result :=
  told s (σ.dir.append names) (σ.out.append names) (content names)
    ((fault? s (σ.dir.append names) (content names)).or (σ.refusal? fs names (newCode? s (σ.dir.append names) (content names))))

/-- A file waits for its delivery, which will be as it would have been at first. -/
structure Waiting (σ : Site) (s : Settings) (fs₀ : FileSystem) (content : List Name → ByteArray)
    (names : List Name) (fs : FileSystem) : Prop extends Ready σ content names fs where
  change_eq : σ.change s fs content names = σ.change s fs₀ content names
  result_eq : σ.result s fs content names = σ.result s fs₀ content names
  late : fs.BlockedLate σ.place (σ.way names) → fs₀.BlockedLate σ.place (σ.way names)

theorem Ready.waiting (h : σ.Ready content names fs) (s : Settings) : σ.Waiting s fs content names fs := ⟨h, rfl, rfl, id⟩

theorem change_cases (σ : Site) (s : Settings) (fs : FileSystem) (content : List Name → ByteArray) (names : List Name) :
    σ.change s fs content names = .none ∨
      ∃ code?, σ.change s fs content names = σ.delivering fs names code? (content names) := by
  unfold change
  split
  · exact Or.inl rfl
  · exact Or.inr ⟨_, rfl⟩

/-- The rewriting of one file leaves all as it is for that of another. -/
theorem Ready.same_of_change (h : σ.Ready content names fs) (ho : σ.Ready content other fs) (hne : names ≠ other)
    (htakes : (σ.change s fs content other).Takes fs after) : σ.Same names fs after := by
  rcases σ.change_cases s fs content other with hnone | ⟨code?, hdelivering⟩
  · rw [hnone] at htakes
    rw [htakes.eq_of_none]
    exact ⟨fun _ _ => Iff.rfl, fun _ _ => rfl⟩
  · rw [hdelivering] at htakes
    exact h.same_of_takes ho hne htakes

theorem Same.change (h : σ.Same names fs after) (s : Settings) : σ.change s after content names = σ.change s fs content names := by
  unfold Site.change
  split
  · rfl
  · exact h.delivering _ _

theorem Same.result (h : σ.Same names fs after) (s : Settings) : σ.result s after content names = σ.result s fs content names := by
  unfold Site.result
  rw [h.refusal?]

theorem isExpected_of_refusal? {error : Files.Error} (h : σ.refusal? fs names code? = some error) : error.isExpected = true := by
  unfold refusal? at h
  repeat' split at h
  all_goals cases h
  all_goals rfl

/-- The rewriting of a file into another directory. -/
theorem Ready.performs (h : σ.Ready content names fs) (s : Settings) :
    Performs s false fs (σ.dir.append names, some (σ.out.append names)) (σ.change s fs content names) fun r =>
      r.Alike (σ.result s fs content names) ∧
        (¬ fs.BlockedLate σ.place (σ.way names) → r = σ.result s fs content names) := by
  have hattempt : attempt s false fs (σ.dir.append names) (σ.out.append names) (content names) =
      match fault? s (σ.dir.append names) (content names) with
      | some error => ⟨fs, some error⟩
      | none => Rewrite.deliver fs (σ.dir.append names) (σ.out.append names)
          (newCode? s (σ.dir.append names) (content names)) := rfl
  have hrewrite := rewriteFile_eq_attempt s false (some (σ.out.append names)) (h.input false).1 (h.input false).2
  rw [Option.getD_some, hattempt] at hrewrite
  unfold Site.change Site.result
  cases hfault : fault? s (σ.dir.append names) (content names) with
  | some error =>
    rw [hfault] at hrewrite
    obtain ⟨hfiles, hresult⟩ := hrewrite (by rintro _ ⟨⟩; exact isExpected_of_fault? hfault)
    exact ⟨hfiles ▸ Change.Takes.refl fs, _, hresult, Result.Alike.refl _, fun _ => rfl⟩
  | none =>
    rw [hfault] at hrewrite
    obtain ⟨htakes, herror⟩ := h.deliver (newCode? s (σ.dir.append names) (content names))
    dsimp only at hrewrite ⊢
    rcases herror with herror | ⟨hlate, cause, cause', shown, shown', herror, hrefusal⟩
    · obtain ⟨hfiles, hresult⟩ := hrewrite (herror ▸ fun _ => isExpected_of_refusal?)
      rw [herror] at hresult
      exact ⟨hfiles ▸ htakes, _, hresult, Result.Alike.refl _, fun _ => rfl⟩
    · obtain ⟨hfiles, hresult⟩ := hrewrite (by rw [herror]; rintro _ ⟨⟩; rfl)
      rw [herror] at hresult
      refine ⟨hfiles ▸ htakes, _, hresult, ⟨rfl, rfl, rfl, rfl, ?_, ?_⟩, fun hnot => absurd hlate hnot⟩ <;>
      · rw [hrefusal]
        rfl

/-- Rewritings of files into another directory are independent. -/
theorem independent_delivery (σ : Site) (s : Settings) (fs₀ : FileSystem) (content : List Name → ByteArray) :
    Independent s false (fun names => (σ.dir.append names, some (σ.out.append names))) (σ.change s fs₀ content)
      (fun names r => r.Alike (σ.result s fs₀ content names) ∧
        (¬ fs₀.BlockedLate σ.place (σ.way names) → r = σ.result s fs₀ content names))
      (σ.Waiting s fs₀ content) where
  performs {names fs} h := by
    obtain ⟨htakes, r, hr, halike, heq⟩ := h.toReady.performs s
    rw [h.change_eq] at htakes
    rw [h.result_eq] at halike heq
    exact ⟨htakes, r, hr, halike, fun hlate => heq fun hlate' => hlate (h.late hlate')⟩
  keeps {a b fs after} hne ha hb htakes := by
    rw [← ha.change_eq] at htakes
    rcases σ.change_cases s fs content a with hnone | ⟨code?, hdelivering⟩
    · rw [hnone] at htakes
      rwa [htakes.eq_of_none]
    · rw [hdelivering] at htakes
      have hsame := hb.toReady.same_of_takes ha.toReady hne.symm htakes
      have hgrown := htakes.grown (ha.toReady.delivering_suits code? (content a))
      exact ⟨hb.toReady.keep ha.toReady hne.symm htakes, (hsame.change s).trans hb.change_eq, (hsame.result s).trans hb.result_eq,
        fun hlate => hb.late (hsame.blockedLate hgrown hlate)⟩
  agrees {a b fs} hne ha hb := by
    rw [← ha.change_eq, ← hb.change_eq]
    rcases σ.change_cases s fs content a with hnone | ⟨code?, hdelivering⟩
    · rw [hnone]
      intro m e f he
      cases he
    rcases σ.change_cases s fs content b with hnone' | ⟨code?', hdelivering'⟩
    · rw [hnone']
      intro m e f he hf
      cases hf
    · rw [hdelivering, hdelivering']
      exact ha.toReady.agrees hb.toReady hne

end Site

end ClassChain.Rewrite

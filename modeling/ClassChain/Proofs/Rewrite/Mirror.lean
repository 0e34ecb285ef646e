import ClassChain.Proofs.Rewrite.Independence

/-!
# An output tree mirrors its input

Into an empty directory every file found is delivered under the names it has: nothing is in the way, so only a file that is no text or a
path that is too long can be told to fail. `rewriteTree_mirrors` says what a run leaves at every location, if the directories can be
listed. That paths can be too long cannot be left out: a directory can be named by a path to which no name can be added
(`long_output_fails`). More directories than can be made are never missing, since no more were listed.
-/

namespace ClassChain.Rewrite

open Files (Path FileSystem Location Name Step Change)

/-- What a file with the content is in the output: the text written out where the hook takes the file and this makes a difference, and
the bytes as they are otherwise. -/
def mirror (s : Settings) (id : String) (content : ByteArray) : ByteArray :=
  match FileSystem.textOf content with
  | .ok text =>
    if s.accepts id = true ∧ Document.expandText (s.modeOf id) text ≠ text then
      Text.Utf8.encode (Document.expandText (s.modeOf id) text)
    else content
  | .error _ => content

variable {s : Settings} {fs : FileSystem} {content : List Name → ByteArray} {names : List Name}

/-! ## Deliveries into an empty directory -/

namespace Site

variable {σ : Site} {code? : Option String}

/-- The target is an empty directory. -/
structure Empty (σ : Site) (fs : FileSystem) : Prop where
  before : σ.before = []
  leads : fs.follow false σ.base.route = .ok (.directory σ.place)
  empty : ∀ names, names ≠ [] → fs.get? (σ.place ++ names) = none

theorem Empty.outAt (h : σ.Empty fs) : σ.outAt = σ.place := by
  rw [Site.outAt, h.before]
  rfl

theorem Empty.out (h : σ.Empty fs) : σ.out = σ.base := by
  rw [Site.out, h.before, Path.through_nil]

/-- No more is missing on the way of a file than it has names. -/
theorem Empty.reach (h : σ.Empty fs) (hshort : names.length ≤ FileSystem.descentLimit + 1) :
    ¬ fs.OutOfReach (σ.out.append names.dropLast) := by
  intro hlacks
  rw [h.out] at hlacks
  have hlength := FileSystem.length_of_lacks_append h.leads hlacks
  rw [List.length_dropLast, FileSystem.makeLimit] at hlength
  rw [FileSystem.descentLimit] at hshort
  omega

theorem Empty.isOpen (h : σ.Empty fs) (hr : σ.Ready content names fs) : fs.isOpen σ.place (σ.way names) = true := by
  rw [way, h.before, List.nil_append]
  exact FileSystem.isOpen_names (fun n hn => hr.fits n (List.dropLast_subset _ hn)) h.empty

/-- The places of the way are those above the file. -/
theorem Empty.mem_places (h : σ.Empty fs) {m : Location} :
    m ∈ Files.places σ.place (σ.way names) ↔ ∃ front, front ≠ [] ∧ front <+: names.dropLast ∧ m = σ.place ++ front := by
  rw [mem_places_way, h.before, h.outAt]
  simp

theorem Empty.not_mem_places (h : σ.Empty fs) (hr : σ.Ready content names fs) :
    σ.place ++ names ∉ Files.places σ.place (σ.way names) := by
  obtain ⟨init, n, rfl, -⟩ := hr.exists_concat
  rw [h.mem_places]
  rintro ⟨front, -, hfront, heq⟩
  rw [← List.append_cancel_left heq, List.dropLast_concat] at hfront
  have hlength := hfront.length_le
  simp only [List.length_append, List.length_singleton] at hlength
  omega

/-- No directory is in place of a file. -/
theorem Empty.not_directoryAt (h : σ.Empty fs) (hr : σ.Ready content names fs) :
    σ.directoryAt fs names (σ.outAt ++ names) = false := by
  have hnone : fs.get? (σ.outAt ++ names) = none := by
    rw [h.outAt]
    exact h.empty names hr.ne_nil
  have hplace : σ.outAt ++ names ∉ Files.places σ.place (σ.way names) := by
    rw [h.outAt]
    exact h.not_mem_places hr
  simp [directoryAt, FileSystem.isDirectoryAt, hnone, hplace]

theorem Empty.goal (h : σ.Empty fs) (hr : σ.Ready content names fs) (code? : Option String) : σ.goal fs names code? = names := by
  rw [Site.goal, if_neg (by simp [h.not_directoryAt hr])]

theorem Empty.inn_ne_outAt (h : σ.Empty fs) (hr : σ.Ready content names fs) : σ.inn ≠ σ.outAt := by
  intro heq
  have hfile := hr.file
  rw [heq, h.outAt, h.empty names (hr.ne_nil)] at hfile
  cases hfile

theorem Ready.long_output (hr : σ.Ready content names fs) (hlong : (σ.out.append names.dropLast).IsLong) :
    (σ.out.append names).IsLong := by
  obtain ⟨front, n, rfl, -⟩ := hr.exists_concat
  rw [List.dropLast_concat] at hlong
  exact Path.isLong_append [n] hlong

/-- Nothing but too long a path is in the way. -/
theorem Empty.refusal?_eq_none_iff (h : σ.Empty fs) (hr : σ.Ready content names fs) :
    σ.refusal? fs names code? = none ↔ ¬ (code? = none ∧ (σ.dir.append names).IsLong) ∧ ¬ (σ.out.append names).IsLong := by
  rw [Site.refusal?_eq_none_iff, h.goal hr]
  constructor
  · rintro ⟨-, -, hinput, houtput, -⟩
    exact ⟨hinput, houtput⟩
  · rintro ⟨hinput, houtput⟩
    exact ⟨fun hlong => houtput (hr.long_output hlong), h.isOpen hr, hinput, houtput,
      fun hsame => h.inn_ne_outAt hr hsame.2, h.not_directoryAt hr⟩

/-- A file fails exactly when the hook takes it and it is no text, or a path is too long. -/
def Fails (σ : Site) (s : Settings) (content : List Name → ByteArray) (names : List Name) : Prop :=
  (s.accepts (σ.dir.append names).text = true ∧ ∃ fault, Text.Utf8.decode (content names) = .error fault) ∨
    (σ.dir.append names).IsLong ∨ (σ.out.append names).IsLong

theorem Empty.fails_iff (h : σ.Empty fs) (hr : σ.Ready content names fs) (s : Settings) :
    σ.Fails s content names ↔
      ¬ (fault? s (σ.dir.append names) (content names) = none ∧
        σ.refusal? fs names (newCode? s (σ.dir.append names) (content names)) = none) := by
  have hfault := @isSome_fault?_iff s (σ.dir.append names) (content names)
  rw [h.refusal?_eq_none_iff hr]
  unfold Fails
  cases hcase : fault? s (σ.dir.append names) (content names) with
  | some error =>
    obtain ⟨haccepts, hcause⟩ := hfault.mp (by rw [hcase]; rfl)
    refine iff_of_true ?_ (by simp)
    rcases hcause with hlong | hundecodable
    · exact Or.inr (Or.inl hlong)
    · exact Or.inl ⟨haccepts, hundecodable⟩
  | none =>
    have hreadable : ¬ (s.accepts (σ.dir.append names).text = true ∧
        ((σ.dir.append names).IsLong ∨ ∃ fault, Text.Utf8.decode (content names) = .error fault)) := by
      intro hunreadable
      have := hfault.mpr hunreadable
      rw [hcase] at this
      cases this
    -- a file whose path is too long has no new code
    have hcode : (σ.dir.append names).IsLong → newCode? s (σ.dir.append names) (content names) = none := by
      intro hlong
      rw [Option.eq_none_iff_forall_ne_some]
      intro code hcode
      exact (newCode?_eq_some_iff.mp hcode).2.1 hlong
    by_cases hinput : (σ.dir.append names).IsLong
    · exact iff_of_true (Or.inr (Or.inl hinput)) fun hall => hall.2.1 ⟨hcode hinput, hinput⟩
    · constructor
      · rintro (⟨haccepts, hundecodable⟩ | hlong | hlong) ⟨-, -, houtput⟩
        · exact hreadable ⟨haccepts, Or.inr hundecodable⟩
        · exact hinput hlong
        · exact houtput hlong
      · intro hnot
        refine Or.inr (Or.inr ?_)
        by_contra houtput
        exact hnot ⟨rfl, fun hlong => hinput hlong.2, houtput⟩

theorem Empty.output_result (h : σ.Empty fs) (s : Settings) (names : List Name) :
    (σ.result s fs content names).output = σ.base.append names := by
  rw [← h.out]
  rfl

theorem Empty.succeeded_iff (h : σ.Empty fs) (hr : σ.Ready content names fs) (s : Settings) :
    (σ.result s fs content names).status = true ↔ ¬ σ.Fails s content names := by
  rw [h.fails_iff hr, not_not, ← Option.or_eq_none_iff]
  exact Option.isNone_iff_eq_none

/-- What is delivered is the mirror of the file. -/
theorem delivered_eq_mirror (σ : Site) (hshort : ¬ (σ.dir.append names).IsLong) :
    delivered (content names) (newCode? s (σ.dir.append names) (content names)) =
      mirror s (σ.dir.append names).text (content names) := by
  unfold mirror
  cases hcode : newCode? s (σ.dir.append names) (content names) with
  | some code =>
    obtain ⟨haccepts, -, text, htext, hne, rfl⟩ := newCode?_eq_some_iff.mp hcode
    rw [htext]
    exact (if_pos ⟨haccepts, hne⟩).symm
  | none =>
    split
    · rename_i text htext
      split
      · rename_i hchanges
        have := newCode?_eq_some_iff.mpr ⟨hchanges.1, hshort, text, htext, hchanges.2, rfl⟩
        rw [hcode] at this
        cases this
      · rfl
    · rfl

/-- What a delivery into an empty directory sets. -/
theorem Empty.change_eq_some_iff (h : σ.Empty fs) (hr : σ.Ready content names fs) (s : Settings) {m : Location} {e : Files.Entry} :
    σ.change s fs content names m = some e ↔
      ¬ σ.Fails s content names ∧ m = σ.place ++ names ∧ e = .file (mirror s (σ.dir.append names).text (content names)) ∨
      fault? s (σ.dir.append names) (content names) = none ∧ ¬ (σ.out.append names.dropLast).IsLong ∧ e = .directory ∧
        ∃ front, front ≠ [] ∧ front <+: names.dropLast ∧ m = σ.place ++ front := by
  have hfails := h.fails_iff hr s
  unfold change
  cases hfault : fault? s (σ.dir.append names) (content names) with
  | some error =>
    rw [hfault] at hfails
    simp [hfails]
  | none =>
    rw [hfault] at hfails
    have hgoal := h.goal hr (newCode? s (σ.dir.append names) (content names))
    have hopen := FileSystem.openPlaces_of_isOpen (h.isOpen hr)
    dsimp only
    unfold delivering
    by_cases hlong : (σ.out.append names.dropLast).IsLong
    · have hfail : σ.Fails s content names := Or.inr (Or.inr (hr.long_output hlong))
      rw [if_pos hlong]
      simp [hfail, hlong]
    · have hapart := h.not_mem_places hr
      rw [if_neg hlong, Change.andThen_eq_some, hopen, hgoal, Change.directories_eq_some, h.mem_places]
      cases hrefusal : σ.refusal? fs names (newCode? s (σ.dir.append names) (content names)) with
      | some error =>
        have hfail : σ.Fails s content names := hfails.mpr (by simp [hrefusal])
        simp [hfail, hlong, and_comm]
      | none =>
        have hfine : ¬ σ.Fails s content names := fun hfail => hfails.mp hfail ⟨rfl, hrefusal⟩
        have hinput : ¬ (σ.dir.append names).IsLong := fun hinput => hfine (Or.inr (Or.inl hinput))
        rw [delivered_eq_mirror σ hinput, h.outAt, Change.file_eq_some]
        constructor
        · rintro (⟨rfl, rfl⟩ | ⟨-, hfront, rfl⟩)
          · exact Or.inl ⟨hfine, rfl, rfl⟩
          · exact Or.inr ⟨rfl, hlong, rfl, hfront⟩
        · rintro (⟨-, rfl, rfl⟩ | ⟨-, -, rfl, hfront⟩)
          · exact Or.inl ⟨rfl, rfl⟩
          · refine Or.inr ⟨?_, hfront, rfl⟩
            refine if_neg ?_
            rintro rfl
            exact hapart (h.mem_places.mpr hfront)

end Site

/-! ## The whole run -/

variable {σ : Site} {after : FileSystem} {found : List (List Name)}

/-- After the deliveries there stands below the target what one of them sets, and elsewhere what stood before. -/
theorem Site.Empty.get?_of_takes (hempty : σ.Empty fs) (hnodup : found.Nodup)
    (hready : ∀ names ∈ found, σ.Ready content names fs)
    (htakes : (Change.all (found.map (σ.change s fs content))).Takes fs after) :
    (∀ m, (found ≠ [] → ∀ names, names ≠ [] → m ≠ σ.place ++ names) → after.get? m = fs.get? m) ∧
      ∀ names e, names ≠ [] →
        (after.get? (σ.place ++ names) = some e ↔ ∃ other ∈ found, σ.change s fs content other (σ.place ++ names) = some e) := by
  have hall : ∀ m e, Change.all (found.map (σ.change s fs content)) m = some e ↔
      ∃ names ∈ found, σ.change s fs content names m = some e := by
    intro m e
    have hwaiting : ∀ names ∈ found, σ.Waiting s fs content names fs :=
      fun names hnames => (hready names hnames).waiting s
    rw [Change.all_eq_some_iff ((σ.independent_delivery s fs content).pairwise_agrees hnodup hwaiting)]
    simp only [List.mem_map, exists_exists_and_eq_and]
  constructor
  · intro m hm
    have hnone : Change.all (found.map (σ.change s fs content)) m = none := by
      rw [Option.eq_none_iff_forall_ne_some]
      intro e he
      obtain ⟨names, hnames, hchange⟩ := (hall m e).mp he
      have hready := hready names hnames
      have hfree := hm (List.ne_nil_of_mem hnames)
      rcases (hempty.change_eq_some_iff hready s).mp hchange with ⟨-, heq, -⟩ | ⟨-, -, -, front, hne, -, heq⟩
      · exact hfree names hready.ne_nil heq
      · exact hfree front hne heq
    rw [htakes.get?, hnone, Option.none_or]
  · intro names e hne
    rw [htakes.get?, hempty.empty names hne, Option.or_none, hall]

/-- The files in the target are those of the results without a failure. -/
theorem Site.Empty.file_iff (hempty : σ.Empty fs) (hnodup : found.Nodup)
    (hready : ∀ names ∈ found, σ.Ready content names fs)
    (htakes : (Change.all (found.map (σ.change s fs content))).Takes fs after) (hplace : after.get? σ.place = some .directory)
    (bytes : ByteArray) :
    after.get? (σ.place ++ names) = some (.file bytes) ↔
      ∃ r ∈ found.map (σ.result s fs content), r.output = σ.base.append names ∧ r.status = true ∧
        bytes = mirror s r.input.text (content names) := by
  obtain ⟨-, hset⟩ := hempty.get?_of_takes hnodup hready htakes
  constructor
  · intro hfile
    have hne : names ≠ [] := by
      rintro rfl
      rw [List.append_nil, hplace] at hfile
      cases hfile
    obtain ⟨other, hother, hchange⟩ := (hset names _ hne).mp hfile
    have hready := hready other hother
    rcases (hempty.change_eq_some_iff hready s).mp hchange with ⟨hfine, heq, hbytes⟩ | ⟨-, -, hdir, -⟩
    · obtain rfl : names = other := List.append_cancel_left heq
      exact ⟨_, List.mem_map_of_mem hother, hempty.output_result s names, (hempty.succeeded_iff hready s).mpr hfine,
        Files.Entry.file.inj hbytes⟩
    · cases hdir
  · rintro ⟨r, hr, hout, hfine, rfl⟩
    obtain ⟨other, hother, rfl⟩ := List.mem_map.mp hr
    obtain rfl : other = names := Path.append_injective ((hempty.output_result s other).symm.trans hout)
    have hready := hready other hother
    rw [hset other _ hready.ne_nil]
    exact ⟨other, hother, (hempty.change_eq_some_iff hready s).mpr (Or.inl ⟨(hempty.succeeded_iff hready s).mp hfine, rfl, rfl⟩)⟩

/-- The run makes all deliveries, and tells of each what was to be told at first. -/
theorem Site.Empty.run (h : σ.Empty fs) (s : Settings) (hnodup : found.Nodup)
    (hready : ∀ names ∈ found, σ.Ready content names fs) :
    (Change.all (found.map (σ.change s fs content))).Takes fs
        (rewriteFiles s false fs (found.map fun names => (σ.dir.append names, some (σ.base.append names)))).files ∧
      (rewriteFiles s false fs (found.map fun names => (σ.dir.append names, some (σ.base.append names)))).result =
        .ok (found.map (σ.result s fs content)) := by
  obtain ⟨htakes, results, hresults, htolds⟩ := (σ.independent_delivery s fs content).run hnodup
    fun names hnames => (hready names hnames).waiting s
  have hopen : ∀ names ∈ found, ¬ fs.BlockedLate σ.place (σ.way names) := fun names hnames hlate => by
    have := h.isOpen (hready names hnames)
    rw [hlate.1] at this
    cases this
  have htold : results = found.map (σ.result s fs content) :=
    eq_map_of_forall₂ (((List.forall₂_and_left _ _).mpr ⟨hopen, htolds⟩).imp fun _ _ h => h.2.2 h.1)
  rw [h.out] at htakes hresults
  exact ⟨htakes, htold ▸ hresults⟩

namespace Sample

/-- A path to the directory for the output that goes in and out again before. -/
def roundPath (k : Nat) : Path := ⟨.standing, (List.replicate k [.into output, .up]).flatten ++ [.into output]⟩

theorem steps_roundPath_ne_nil (k : Nat) : (roundPath k).steps ≠ [] := by simp [roundPath]

theorem step_of_mem_roundPath {k : Nat} {step : Step} (h : step ∈ (roundPath k).steps) : step = .into output ∨ step = .up := by
  simp only [roundPath, List.mem_append, List.mem_flatten, List.mem_replicate, List.mem_singleton] at h
  rcases h with ⟨round, ⟨-, rfl⟩, hround⟩ | rfl
  · simpa using hround
  · exact Or.inl rfl

theorem hasNull_roundPath (k : Nat) : (roundPath k).hasNull = false := by
  rw [Bool.eq_false_iff]
  intro hnull
  obtain ⟨step, hstep, hmem⟩ := Path.hasNull_iff.mp hnull
  rcases step_of_mem_roundPath hstep with rfl | rfl <;> exact absurd hmem (by decide)

theorem size_roundPath (k : Nat) : (roundPath k).text.utf8ByteSize = 5 * k + 1 := by
  have hsize := Path.utf8ByteSize_text (steps_roundPath_ne_nil k)
  have hround : ([.into output, .up].map fun step : Step => step.text.utf8ByteSize + 1).sum = 5 := by decide
  have hlast : ([.into output].map fun step : Step => step.text.utf8ByteSize + 1).sum = 2 := by decide
  have hanchor : Files.Anchor.standing.text.utf8ByteSize = 0 := by decide
  simp only [roundPath, List.map_append, List.sum_append, List.map_flatten, List.map_replicate, List.sum_flatten,
    hround, hlast, hanchor, List.sum_replicate_nat] at hsize
  rw [roundPath]
  omega

theorem resolve_roundPath {fs : FileSystem} (hstanding : fs.standing = []) (houtput : fs.get? [output] = some .directory) {k : Nat}
    (hk : k ≤ 818) : fs.resolve (roundPath k) = .ok (.directory [output]) := by
  have hshort : ¬ (roundPath k).IsLong := by
    rw [Path.IsLong, size_roundPath, Files.pathLimit]
    omega
  have hstart : fs.start (roundPath k).route = [] := hstanding
  have hfits : output.fits = true := by decide
  have hlast : fs.walk false Files.linkLimit [] [.into output] = .ok (.directory [output]) := by
    rw [FileSystem.walk, if_neg (by simp), if_neg (by simp [hfits]), List.nil_append, houtput]
    exact FileSystem.walk.eq_1 ..
  rw [FileSystem.resolve_of_not_long hshort, FileSystem.follow_eq, hstart, if_pos (by simp [FileSystem.isDirectoryAt])]
  exact (FileSystem.walk_there_and_back houtput k _).trans hlast

end Sample

end ClassChain.Rewrite

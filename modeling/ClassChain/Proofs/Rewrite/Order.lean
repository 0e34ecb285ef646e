import ClassChain.Proofs.Rewrite.Independence

/-!
# The order of the files

Where no links stand the files of a tree can be rewritten in any order: `rewriteFiles_of_perm` says that the file system left is the same
and each file has the same result, up to the words in which a failure is told. These words depend on the order only where the way to the
output is stopped behind a directory that is missing at first, and there they do (`rewriteFiles_order_told`). All this is said of files
above whose outputs no more is missing at first than can be made.
-/

namespace ClassChain.Rewrite

open Files (Path FileSystem Location Name Step Change)

variable {s : Settings} {check : Bool} {fs : FileSystem} {dir out : Path} {out? : Option Path} {found : List (List Name)}

/-- Where a path leads if no link stands on its way. -/
def located (fs : FileSystem) (p : Path) : Location := Files.land (fs.start p.route) p.steps

/-- Neither of two paths leads to a place inside the place that the other leads to. -/
def Apart (fs : FileSystem) (p q : Path) : Prop :=
  located fs p <+: located fs q ∨ located fs q <+: located fs p → located fs p = located fs q

/-- The rewritings of the files found, in the order given. -/
def tasksOf (dir : Path) (out? : Option Path) (order : List (List Name)) : List Task :=
  order.map fun names => (dir.append names, out?.map (·.append names))

/-- The directories above the output of a file cannot be made, and one of them is missing before the one at which this ends. -/
def StopsLate (fs : FileSystem) (check : Bool) (out? : Option Path) (names : List Name) : Prop :=
  check = false ∧ ∃ out, out? = some out ∧ fs.BlockedLate (fs.start out.route) (out.steps ++ names.dropLast.map .into)

/-- In whatever order the files are rewritten, the file system left is the same and each file has the result told, up to the words of a
failure that comes late. -/
def AnyOrder (s : Settings) (check : Bool) (fs : FileSystem) (dir : Path) (out? : Option Path) (found : List (List Name))
    (told : List Name → Result) : Prop :=
  ∀ order, order.Perm found →
    (rewriteFiles s check fs (tasksOf dir out? order)).files = (rewriteFiles s check fs (tasksOf dir out? found)).files ∧
      ∃ results, (rewriteFiles s check fs (tasksOf dir out? order)).result = .ok results ∧
        List.Forall₂ (fun names r => r.Alike (told names) ∧ (¬ StopsLate fs check out? names → r = told names)) order results

/-- Independent files can be rewritten in any order. -/
theorem Independent.anyOrder {change : List Name → Change} {Told : List Name → Result → Prop}
    {Ready : List Name → FileSystem → Prop} {told : List Name → Result}
    (h : Independent s check (fun names => (dir.append names, out?.map (·.append names))) change Told Ready) (hnodup : found.Nodup)
    (hready : ∀ names ∈ found, Ready names fs)
    (htold : ∀ names r, Told names r → r.Alike (told names) ∧ (¬ StopsLate fs check out? names → r = told names)) :
    AnyOrder s check fs dir out? found told := by
  intro order horder
  obtain ⟨-, results, hresults, htolds⟩ := h.run (horder.nodup_iff.mpr hnodup)
    fun names hnames => hready names (horder.subset hnames)
  exact ⟨h.files_of_perm hnodup hready horder, results, hresults, htolds.imp htold⟩

theorem alike_of_eq {r told : Result} {P : Prop} (h : r = told) : r.Alike told ∧ (P → r = told) := ⟨h ▸ .refl r, fun _ => h⟩

/-! ## Files that go nowhere -/

/-- The program stands where no directory is, and the output is to be reached from there. -/
structure Lost (dir out : Path) (inn : Location) (content : List Name → ByteArray) (names : List Name) (fs : FileSystem) : Prop
    extends Present dir inn content names fs where
  lost : fs.isDirectoryAt (fs.start out.route) = false
  reach : ¬ fs.OutOfReach (out.append names.dropLast)

/-- The error of a file that goes nowhere. -/
def lostError (out : Path) (names : List Name) : Files.Error :=
  if (out.append names.dropLast).IsLong then .refused .nameTooLong (out.append names.dropLast)
  else .refused .missing ⟨out.anchor, []⟩

/-- What is told of it. -/
def toldLost (s : Settings) (dir out : Path) (content : List Name → ByteArray) (names : List Name) : Result :=
  told s (dir.append names) (out.append names) (content names)
    ((fault? s (dir.append names) (content names)).or (some (lostError out names)))

variable {inn : Location} {content : List Name → ByteArray} {names : List Name}

theorem Lost.ensure (h : Lost dir out inn content names fs) (hnull : out.hasNull = false) :
    fs.ensure (out.append names).parent = ⟨fs, some (lostError out names)⟩ := by
  have hplain : (out.append names.dropLast).hasNull = false :=
    Path.hasNull_append hnull fun n hn => h.fits n (List.dropLast_subset _ hn)
  rw [out.parent_append h.ne_nil, lostError]
  by_cases hlong : (out.append names.dropLast).IsLong
  · rw [if_pos hlong, FileSystem.ensure_of_long fs hplain hlong]
  · rw [if_neg hlong]
    exact FileSystem.ensure_of_lost h.lost (Path.legal_of_not_isLong hplain hlong) h.reach

/-- Files that go nowhere are independent, and nothing is made or written. -/
theorem independent_lost (s : Settings) (hne : out ≠ dir) (hnull : out.hasNull = false) (inn : Location)
    (content : List Name → ByteArray) :
    Independent s false (fun names => (dir.append names, some (out.append names))) (fun _ => Change.none)
      (fun names r => r = toldLost s dir out content names) (Lost dir out inn content) where
  performs {names fs} h := by
    have hattempt : attempt s false fs (dir.append names) (out.append names) (content names) =
        ⟨fs, (fault? s (dir.append names) (content names)).or (some (lostError out names))⟩ := by
      unfold attempt
      split
      · rename_i error hfault
        rw [hfault, Option.some_or]
      · rename_i hfault
        rw [hfault, Option.none_or]
        exact deliver_of_stopped (fun heq => hne (Path.eq_of_append_eq heq)) (h.ensure hnull) _
    have hexpected : ∀ error, (attempt s false fs (dir.append names) (out.append names) (content names)).error? = some error →
        error.isExpected = true := by
      rw [hattempt]
      intro error herror
      rcases Option.or_eq_some_iff.mp herror with hfault | ⟨-, hlost⟩
      · exact isExpected_of_fault? hfault
      · obtain rfl := Option.some.inj hlost
        unfold lostError
        split <;> rfl
    obtain ⟨hfiles, hresult⟩ :=
      rewriteFile_eq_attempt s false (some (out.append names)) (h.input false).1 (h.input false).2 hexpected
    rw [Option.getD_some, hattempt] at hfiles hresult
    exact ⟨hfiles ▸ Change.Takes.refl fs, _, hresult, rfl⟩
  keeps _ _ h htakes := by rwa [htakes.eq_of_none]
  agrees _ _ _ := by intro m e f he; cases he

/-! ## All files that are found -/

/-- Without links a path that leads to a directory leads where its steps go. -/
theorem located_of_resolve (hlinks : fs.NoLinkBelow []) (h : fs.resolve dir = .ok (.directory inn)) : located fs dir = inn := by
  have hfollow := FileSystem.follow_of_resolve h
  rw [FileSystem.follow_eq] at hfollow
  split at hfollow
  · have hway : ∀ m ∈ Files.places (fs.start dir.route) dir.route.steps, ∀ t, fs.get? m ≠ some (.link t) := fun m _ t => hlinks m t
    cases FileSystem.walk_way Files.linkLimit hway with
    | through _ _ hout => exact Files.Place.directory.inj (Except.ok.inj (hout.symm.trans hfollow))
    | missing _ _ hout | stopped _ _ hout =>
      rw [hfollow] at hout
      cases hout
  · cases hfollow

/-- The files in a directory can be rewritten in place in any order. An output that is the directory itself is no output. -/
theorem anyOrder_inPlace (s : Settings) (hout : out? = none ∨ out? = some dir) (hnodup : found.Nodup)
    (hpresent : ∀ names ∈ found, Present dir inn content names fs) :
    AnyOrder s false fs dir out? found fun names => toldAlone s (dir.append names) (dir.append names) (content names) := by
  have hindependent := independent_inPlace s dir inn content
  rcases hout with rfl | rfl
  · exact hindependent.anyOrder hnodup hpresent fun _ _ => alike_of_eq
  · have honto : Independent s false (fun names => (dir.append names, some (dir.append names))) _ _ (Present dir inn content) :=
      { hindependent with
        performs := fun h => ⟨(hindependent.performs h).takes, (hindependent.performs h).ends⟩ }
    exact honto.anyOrder hnodup hpresent fun _ _ => alike_of_eq

/-- The files in a directory can be delivered in any order to a path that leads elsewhere. -/
theorem anyOrder_delivery (s : Settings) (hlinks : fs.NoLinkBelow []) (hnull : out.hasNull = false) (hne : out ≠ dir)
    (hapart : Apart fs dir out) (hnodup : found.Nodup) (hpresent : ∀ names ∈ found, Present dir inn content names fs)
    (hdir : dir.hasNull = false) (hinn : fs.resolve dir = .ok (.directory inn))
    (hreach : ∀ names ∈ found, ¬ fs.OutOfReach (out.append names.dropLast)) :
    ∃ told, AnyOrder s false fs dir (some out) found told := by
  cases hstart : fs.isDirectoryAt (fs.start out.route) with
  | false =>
    refine ⟨toldLost s dir out content, ?_⟩
    exact (independent_lost s hne hnull inn content).anyOrder hnodup
      (fun names hnames => ⟨hpresent names hnames, hstart, hreach names hnames⟩)
      fun _ _ => alike_of_eq
  | true =>
    rw [Apart, located_of_resolve hlinks hinn] at hapart
    let σ : Site :=
      { dir := dir, inn := inn, base := ⟨out.anchor, []⟩, place := fs.start out.route, before := out.steps,
        dir_plain := hdir, out_plain := hnull, out_ne_dir := hne, apart := hapart }
    have hbase : fs.follow false σ.base.route = .ok (.directory σ.place) := by
      have hwalk : fs.walk false Files.linkLimit (fs.start out.route) [] = .ok (.directory (fs.start out.route)) := by
        rw [FileSystem.walk]
      rw [FileSystem.follow_eq]
      exact (if_pos hstart).trans hwalk
    have hready : ∀ names ∈ found, σ.Ready content names fs := fun names hnames =>
      ⟨hpresent names hnames, hbase, fun m _ t => hlinks m t, hlinks.of_root σ.outAt, hreach names hnames⟩
    refine ⟨σ.result s fs content, ?_⟩
    refine (σ.independent_delivery s fs content).anyOrder hnodup (fun names hnames => (hready names hnames).waiting s)
      fun names r htold => ?_
    exact ⟨htold.1, fun hnot => htold.2 fun hlate => hnot ⟨rfl, out, rfl, hlate⟩⟩

/-- Where no links stand the files found can be rewritten in any order, in place or to an output that is apart: the file system left is
the same, and for each file so is the result, up to the words of a failure that comes late. No more may be missing above an output than
can be made. -/
theorem rewriteFiles_of_perm (s : Settings) (check : Bool) (hlinks : fs.NoLinkBelow []) (hdir : dir.hasNull = false)
    (hout : ∀ out, out? = some out → out.hasNull = false ∧ Apart fs dir out) (hfound : findFiles s fs dir = .ok found)
    (hreach : ∀ out, out? = some out → ∀ names ∈ found, ¬ fs.OutOfReach (out.append names.dropLast)) :
    ∃ told, AnyOrder s check fs dir out? found told := by
  have hfound := found_of_findFiles hdir hfound
  rcases List.eq_nil_or_concat found with rfl | ⟨_, first, hconcat⟩
  · refine ⟨fun _ => toldAlone s dir dir .empty, fun order horder => ?_⟩
    rw [List.Perm.eq_nil horder]
    exact ⟨rfl, [], rfl, .nil⟩
  · obtain ⟨inn, hinn, -⟩ := hfound.file first (by simp [hconcat])
    have hpresent := hfound.present_of_resolve hdir hinn (hlinks.of_root inn)
    cases check with
    | true => exact ⟨_, (independent_check s dir out? inn _).anyOrder hfound.nodup hpresent fun _ _ => alike_of_eq⟩
    | false =>
      by_cases hself : out? = none ∨ out? = some dir
      · exact ⟨_, anyOrder_inPlace s hself hfound.nodup hpresent⟩
      · obtain ⟨hnone, hne⟩ := not_or.mp hself
        obtain ⟨out, rfl⟩ := Option.ne_none_iff_exists'.mp hnone
        obtain ⟨hnull, hapart⟩ := hout out rfl
        exact anyOrder_delivery s hlinks hnull (fun heq => hne (congrArg some heq)) hapart hfound.nodup hpresent hdir hinn
          (hreach out rfl)

theorem rewriteFiles_of_perm_sample :
    (Sample.files.NoLinkBelow [] ∧ Sample.inputPath.hasNull = false ∧
      (∀ out, some Sample.outputPath = some out → out.hasNull = false ∧ Apart Sample.files Sample.inputPath out) ∧
      findFiles {} Sample.files Sample.inputPath = .ok [[Sample.first], [Sample.second]] ∧
      ∀ out, some Sample.outputPath = some out → ∀ names ∈ [[Sample.first], [Sample.second]],
        ¬ Sample.files.OutOfReach (out.append names.dropLast)) ∧
    ∃ told, AnyOrder {} false Sample.files Sample.inputPath (some Sample.outputPath) [[Sample.first], [Sample.second]] told := by
  have hdir : Sample.inputPath.hasNull = false := by decide
  have hout : ∀ out, some Sample.outputPath = some out → out.hasNull = false ∧ Apart Sample.files Sample.inputPath out := by
    rintro _ ⟨rfl⟩
    exact ⟨by decide, by unfold Apart located; decide +kernel⟩
  have hreach : ∀ out, some Sample.outputPath = some out → ∀ names ∈ [[Sample.first], [Sample.second]],
      ¬ Sample.files.OutOfReach (out.append names.dropLast) := by
    rintro _ ⟨rfl⟩ names hnames hlacks
    have hlength := FileSystem.length_of_lacks hlacks
    rcases List.mem_pair.mp hnames with rfl | rfl <;> exact absurd hlength (by decide)
  exact ⟨⟨Sample.noLinkBelow [], hdir, hout, Sample.findFiles_input, hreach⟩,
    rewriteFiles_of_perm {} false (Sample.noLinkBelow []) hdir hout Sample.findFiles_input hreach⟩

/-- A file that is stopped behind a missing directory is told to be stopped where it is. -/
theorem Site.Ready.rewriteFile_late {σ : Site} {front back : List Step} {step : Step} {m : Location} (h : σ.Ready content names fs)
    (hfault : fault? s (σ.dir.append names) (content names) = none) (hway : σ.way names = front ++ [step] ++ back)
    (hshort : ¬ (σ.out.append names.dropLast).IsLong) (hopen : fs.isOpen σ.place front = true) (hm : m ∈ Files.places σ.place front)
    (hnone : fs.get? m = none) (hstop : fs.isOpen (Files.land σ.place front) [step] = false) :
    (rewriteFile s false fs (σ.dir.append names) (some (σ.out.append names))).result =
      .ok (told s (σ.dir.append names) (σ.out.append names) (content names)
        (some (.refused (fs.stopCause (Files.land σ.place front) [step]) (σ.base.through (front ++ [step]))))) := by
  have hattempt : (attempt s false fs (σ.dir.append names) (σ.out.append names) (content names)).error? =
      some (.refused (fs.stopCause (Files.land σ.place front) [step]) (σ.base.through (front ++ [step]))) := by
    unfold attempt
    rw [hfault]
    exact h.deliver_late _ hway hshort hopen hm hnone hstop
  obtain ⟨hplain, hfollow⟩ := h.input false
  have hrewrite := rewriteFile_eq_attempt s false (some (σ.out.append names)) hplain hfollow
  rw [Option.getD_some, hattempt] at hrewrite
  exact (hrewrite (by rintro _ ⟨⟩; rfl)).2

namespace Sample

/-- A path through a missing directory and back, and into a file. -/
def crossingPath : Path := ⟨.standing, [.into missing, .up, .into beside, .into output]⟩

theorem apart_crossingPath : Apart files inputPath crossingPath := by
  unfold Apart located
  decide +kernel

/-- The delivery of the files to that path. -/
def crossing : Site where
  dir := inputPath
  inn := [input]
  base := ⟨.standing, []⟩
  place := []
  before := crossingPath.steps
  dir_plain := by decide
  out_plain := by decide
  out_ne_dir := by decide
  apart := by decide

theorem waiting : ∀ names ∈ [[first], [second]], crossing.Waiting {} files (contentsIn files [input]) names files := by
  intro names hnames
  have hbase : files.follow false crossing.base.route = .ok (.directory crossing.place) := FileSystem.follow_standing (by decide)
  have hreach : ¬ files.OutOfReach (crossing.out.append names.dropLast) := fun hlacks => by
    have hlength := FileSystem.length_of_lacks hlacks
    rcases List.mem_pair.mp hnames with rfl | rfl <;> exact absurd hlength (by decide)
  exact Site.Ready.waiting ⟨present names hnames, hbase, fun m _ t => noLinkBelow [] m t, noLinkBelow _, hreach⟩ {}

theorem second_unchanged : fault? {} (crossing.dir.append [second]) (contentsIn files [input] [second]) = none ∧
    newCode? {} (crossing.dir.append [second]) (contentsIn files [input] [second]) = none := by
  have hcontent : contentsIn files [input] [second] = Text.Utf8.encode "z" := by
    have hfile : files.get? [input, second] = some (.file (Text.Utf8.encode "z")) := by decide
    exact contentAt_of_file hfile
  have hexpand : Document.expandText (({} : Settings).modeOf (crossing.dir.append [second]).text) "z" = "z" := by cbv
  have htext : FileSystem.textOf (Text.Utf8.encode "z") = .ok "z" := by
    rw [FileSystem.textOf, Text.Utf8.decode_encode]
    exact congrArg Except.ok (by decide)
  rw [hcontent]
  constructor
  · rw [← Option.not_isSome_iff_eq_none, isSome_fault?_iff]
    rintro ⟨-, hlong | ⟨fault, hfault⟩⟩
    · exact absurd hlong (by decide)
    · cases hfault.symm.trans (Text.Utf8.decode_encode _)
  · refine Option.eq_none_iff_forall_ne_some.mpr fun code hcode => ?_
    obtain ⟨-, -, text, htext', hne, -⟩ := newCode?_eq_some_iff.mp hcode
    obtain rfl : "z" = text := Except.ok.inj (htext.symm.trans htext')
    exact hne hexpand

/-- What is told of the second file when the directory is missing. -/
def toldAhead : Result :=
  told {} (crossing.dir.append [second]) (crossing.out.append [second]) (contentsIn files [input] [second])
    (some (.refused .exists (crossing.base.through [.into missing, .up, .into beside])))

/-- What is told of it when the directory is there. -/
def toldBehind : Result :=
  told {} (crossing.dir.append [second]) (crossing.out.append [second]) (contentsIn files [input] [second])
    (some (.refused .notDirectory crossing.out))

theorem toldBehind_ne_toldAhead : toldBehind ≠ toldAhead := by
  intro heq
  have hmessage := congrArg Result.message? heq
  exact absurd hmessage (by decide)

theorem rewriteFile_ahead :
    (rewriteFile {} false files (crossing.dir.append [second]) (some (crossing.out.append [second]))).result = .ok toldAhead := by
  have hready := (waiting [second] (by simp)).toReady
  have hway : crossing.way [second] = [.into missing, .up] ++ [.into beside] ++ [.into output] := rfl
  have hshort : ¬ (crossing.out.append [second].dropLast).IsLong := by decide
  have hopen : files.isOpen crossing.place [.into missing, .up] = true := by decide
  have hplace : [missing] ∈ Files.places crossing.place [.into missing, .up] := List.mem_singleton_self _
  have hmissing : files.get? [missing] = none := by decide
  have hstop : files.isOpen (Files.land crossing.place [.into missing, .up]) [.into beside] = false := by decide
  have hcause : files.stopCause (Files.land crossing.place [.into missing, .up]) [.into beside] = .exists := by decide
  have htold := hready.rewriteFile_late second_unchanged.1 hway hshort hopen hplace hmissing hstop
  rw [hcause] at htold
  exact htold

/-- Once the first file has been delivered, as far as it can be, the missing directory is there. -/
theorem not_blockedLate {after : FileSystem}
    (htakes : (crossing.change {} files (contentsIn files [input]) [first]).Takes files after)
    (hsame : crossing.Same [second] files after) : ¬ after.BlockedLate crossing.place (crossing.way [second]) := by
  rintro ⟨-, m, hm, hnone⟩
  have hplaces : files.openPlaces crossing.place (crossing.way [second]) = [[missing]] := by decide
  have hmade : crossing.change {} files (contentsIn files [input]) [first] [missing] = some .directory := by decide
  rw [FileSystem.openPlaces_congr hsame.opens, hplaces, List.mem_singleton] at hm
  rw [hm, htakes.get?, hmade] at hnone
  cases hnone

theorem result_behind : crossing.result {} files (contentsIn files [input]) [second] = toldBehind := by
  have hrefusal : crossing.refusal? files [second] none = some (.refused .notDirectory crossing.out) := by decide
  unfold Site.result
  rw [second_unchanged.1, second_unchanged.2, hrefusal, Option.none_or]
  rfl

end Sample

/-- A file that cannot be delivered is told of in other words when another file has made the directory that was missing before. -/
theorem rewriteFiles_order_told :
    (Sample.files.NoLinkBelow [] ∧ Sample.inputPath.hasNull = false ∧ Sample.crossingPath.hasNull = false ∧
      Apart Sample.files Sample.inputPath Sample.crossingPath ∧
      findFiles {} Sample.files Sample.inputPath = .ok [[Sample.first], [Sample.second]]) ∧
    ∃ a b a' b', (rewriteFiles {} false Sample.files
        (tasksOf Sample.inputPath (some Sample.crossingPath) [[Sample.first], [Sample.second]])).result = .ok [a, b] ∧
      (rewriteFiles {} false Sample.files
        (tasksOf Sample.inputPath (some Sample.crossingPath) [[Sample.second], [Sample.first]])).result = .ok [b', a'] ∧
      b ≠ b' := by
  refine ⟨⟨Sample.noLinkBelow [], by decide, by decide, Sample.apart_crossingPath, Sample.findFiles_input⟩, ?_⟩
  have hindependent := Sample.crossing.independent_delivery {} Sample.files (contentsIn Sample.files [Sample.input])
  have hne : [Sample.first] ≠ [Sample.second] := by decide
  have hfirst := Sample.waiting [Sample.first] (by simp)
  have hsecond := Sample.waiting [Sample.second] (by simp)
  -- behind the first file the directory is there
  obtain ⟨htakes, a, ha, -⟩ := hindependent.performs hfirst
  have hsecond' := hindependent.keeps hne hfirst hsecond htakes
  have hsame := hsecond.toReady.same_of_change hfirst.toReady hne.symm htakes
  obtain ⟨-, b, hb, -, hbehind⟩ := hsecond'.toReady.performs {}
  have htold : b = Sample.toldBehind := by
    rw [hbehind (Sample.not_blockedLate htakes hsame), hsecond'.result_eq, Sample.result_behind]
  -- ahead of it the directory is missing
  obtain ⟨htakes', -⟩ := hindependent.performs hsecond
  obtain ⟨-, a', ha', -⟩ := hindependent.performs (hindependent.keeps hne.symm hsecond hfirst htakes')
  refine ⟨a, b, a', Sample.toldAhead, rewriteFiles_pair ha hb, rewriteFiles_pair Sample.rewriteFile_ahead ha', ?_⟩
  rw [htold]
  exact Sample.toldBehind_ne_toldAhead

end ClassChain.Rewrite

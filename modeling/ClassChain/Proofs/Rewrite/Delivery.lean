import ClassChain.Proofs.Files.Ensure
import ClassChain.Proofs.Rewrite.InPlace

/-!
# Delivery to another directory

Files of one directory are delivered into another, which perhaps is not there yet. A `Site` says where they come from and where they
go: the way to the target starts in a directory and goes over places at which no link stands. A delivery makes the directories on
its way as far as it can, and then writes one file (`Site.delivering`), unless there is a reason not to (`Site.refusal?`). Both depend on
little of the file system: on the places of the way that are closed, and on the directories in place of the file (`deliver_eq`).
-/

namespace ClassChain.Rewrite

open Files (Path FileSystem Location Name Step Change)

/-- Where files come from and where they go. -/
structure Site where
  /-- The path of the directory that the files are in. -/
  dir : Path
  /-- Where it is. -/
  inn : Location
  /-- The path of a directory from which the target is reached. -/
  base : Path
  /-- Where it is. -/
  place : Location
  /-- The steps from there to the target. -/
  before : List Step
  dir_plain : dir.hasNull = false
  out_plain : (base.through before).hasNull = false
  /-- The files are not delivered in place. -/
  out_ne_dir : base.through before ≠ dir
  /-- Neither of the two directories is inside the other. -/
  apart : inn <+: Files.land place before ∨ Files.land place before <+: inn → inn = Files.land place before

namespace Site

variable {σ : Site} {fs mid : FileSystem} {content : List Name → ByteArray} {names : List Name} {code? : Option String}

/-- The path of the target. -/
def out (σ : Site) : Path := σ.base.through σ.before

/-- Where the target is, or would be. -/
def outAt (σ : Site) : Location := Files.land σ.place σ.before

/-- The steps to the directory that a file goes into. -/
def way (σ : Site) (names : List Name) : List Step := σ.before ++ names.dropLast.map .into

/-- The file stands where it comes from, no link stands on its way, and not too much is missing there. -/
structure Ready (σ : Site) (content : List Name → ByteArray) (names : List Name) (fs : FileSystem) : Prop
    extends Present σ.dir σ.inn content names fs where
  base_leads : fs.follow false σ.base.route = .ok (.directory σ.place)
  noLink_before : ∀ m ∈ Files.places σ.place σ.before, ∀ t, fs.get? m ≠ some (.link t)
  noLink_below : fs.NoLinkBelow σ.outAt
  reach : ¬ fs.OutOfReach (σ.out.append names.dropLast)

/-- A directory is at the location once the way is made. -/
def directoryAt (σ : Site) (fs : FileSystem) (names : List Name) (l : Location) : Bool :=
  fs.isDirectoryAt l || (Files.places σ.place (σ.way names)).contains l

/-- The names under which the file is written: a copy goes into a directory that stands in its place. -/
def goal (σ : Site) (fs : FileSystem) (names : List Name) (code? : Option String) : List Name :=
  if code? = none ∧ ¬ (σ.out.append names).IsLong ∧ σ.directoryAt fs names (σ.outAt ++ names) = true then
    names ++ names.getLast?.toList
  else names

/-- Why a file is not delivered. -/
def refusal? (σ : Site) (fs : FileSystem) (names : List Name) (code? : Option String) : Option Files.Error :=
  if (σ.out.append names.dropLast).IsLong then some (.refused .nameTooLong (σ.out.append names.dropLast))
  else if fs.isOpen σ.place (σ.way names) = false then
    some (.refused (fs.stopCause σ.place (σ.way names)) (σ.out.append names.dropLast))
  else if code? = none ∧ (σ.dir.append names).IsLong then some (.refused .nameTooLong (σ.dir.append names))
  else if (σ.out.append (σ.goal fs names code?)).IsLong then
    some (.refused .nameTooLong (σ.out.append (σ.goal fs names code?)))
  else if code? = none ∧ σ.inn = σ.outAt then some (.sameFile (σ.dir.append names) (σ.out.append names) false)
  else if σ.directoryAt fs names (σ.outAt ++ σ.goal fs names code?) = true then
    some (.refused .isDirectory (σ.out.append (σ.goal fs names code?)))
  else none

/-- The bytes that are delivered. -/
def delivered (content : ByteArray) : Option String → ByteArray
  | some code => Text.Utf8.encode code
  | none => content

/-- What a delivery changes. -/
def delivering (σ : Site) (fs : FileSystem) (names : List Name) (code? : Option String) (content : ByteArray) : Change :=
  if (σ.out.append names.dropLast).IsLong then .none
  else (Change.directories (fs.openPlaces σ.place (σ.way names))).andThen
    (match σ.refusal? fs names code? with
      | none => .file (σ.outAt ++ σ.goal fs names code?) (delivered content code?)
      | some _ => .none)

/-! ## Ways and places -/

theorem Ready.exists_concat (h : σ.Ready content names fs) : ∃ front n, names = front ++ [n] ∧ n.fits = true := by
  obtain ⟨front, n, rfl⟩ := (List.eq_nil_or_concat names).resolve_left h.ne_nil
  rw [List.concat_eq_append]
  exact ⟨front, n, rfl, h.fits n (by simp)⟩

/-- Into names that fit the path of the target goes on without a null character. -/
theorem hasNull_out_append (σ : Site) (hfits : ∀ n ∈ names, n.fits = true) : (σ.out.append names).hasNull = false :=
  Path.hasNull_append σ.out_plain hfits

theorem out_append_dropLast (σ : Site) (names : List Name) : σ.out.append names.dropLast = σ.base.through (σ.way names) := by
  rw [out, way, Path.append_eq_through, Path.through_through]

theorem land_way (σ : Site) (names : List Name) : Files.land σ.place (σ.way names) = σ.outAt ++ names.dropLast := by
  rw [way, Files.land_append, Files.land_names, outAt]

theorem mem_places_way {m : Location} :
    m ∈ Files.places σ.place (σ.way names) ↔
      m ∈ Files.places σ.place σ.before ∨ ∃ front, front ≠ [] ∧ front <+: names.dropLast ∧ m = σ.outAt ++ front := by
  rw [way, Files.places_append, List.mem_append, Files.mem_places_names, outAt]

theorem Ready.noLink_way (h : σ.Ready content names fs) :
    ∀ m ∈ Files.places σ.place (σ.way names), ∀ t, fs.get? m ≠ some (.link t) := by
  intro m hm
  rcases mem_places_way.mp hm with hm | ⟨front, -, -, rfl⟩
  · exact h.noLink_before m hm
  · exact h.noLink_below front

/-- The goal is below the place of the file. -/
theorem prefix_goal (σ : Site) (fs : FileSystem) (names : List Name) (code? : Option String) : names <+: σ.goal fs names code? := by
  unfold goal
  split
  · exact List.prefix_append _ _
  · exact List.prefix_rfl

/-- The two directories have nothing in common unless they are the same. -/
theorem eq_of_append_eq (σ : Site) {front back : List Name} (h : σ.inn ++ front = σ.outAt ++ back) : σ.inn = σ.outAt := by
  have hinn : σ.inn <+: σ.outAt ++ back := h ▸ List.prefix_append _ _
  exact σ.apart (List.prefix_or_prefix_of_prefix hinn (List.prefix_append _ _))

/-! ## Once the way is made -/

/-- The directories on the way are made. -/
structure Made (σ : Site) (content : List Name → ByteArray) (names : List Name) (fs mid : FileSystem) : Prop
    extends Present σ.dir σ.inn content names mid where
  above : mid.follow false (σ.out.append names.dropLast).route = .ok (.directory (σ.outAt ++ names.dropLast))
  directory : ∀ l, mid.isDirectoryAt l = σ.directoryAt fs names l
  noLink : mid.NoLinkBelow σ.outAt

theorem Ready.made (h : σ.Ready content names fs) (hopen : fs.isOpen σ.place (σ.way names) = true)
    (htakes : (Change.directories (fs.openPlaces σ.place (σ.way names))).Takes fs mid) : σ.Made content names fs mid := by
  have hsuits := FileSystem.openPlaces_suits fs σ.place (σ.way names)
  rw [FileSystem.openPlaces_of_isOpen hopen] at htakes hsuits
  have hdir : ∀ m ∈ Files.places σ.place (σ.way names), mid.get? m = some .directory := fun m hm => by
    rw [htakes.get?]
    simp [Change.directories, hm]
  refine ⟨h.toPresent.keep htakes hsuits ?_, ?_, fun l => ?_, fun below t => htakes.get?_ne_link hsuits (h.noLink_below below) t⟩
  · -- the file is at no place of an open way
    rw [Option.eq_none_iff_forall_ne_some]
    intro e he
    rcases hsuits _ e he with ⟨-, hnone | hdirectory⟩ | ⟨⟨new, rfl⟩, -⟩
    · rw [h.file] at hnone
      cases hnone
    · rw [h.file] at hdirectory
      cases hdirectory
    · exact absurd (Change.directories_eq_some.mp he).2 (by simp)
  · rw [out_append_dropLast, ← land_way]
    exact FileSystem.follow_through_places ((htakes.grown hsuits).follow h.base_leads) hdir
  · rw [directoryAt, FileSystem.isDirectoryAt, FileSystem.isDirectoryAt, htakes.get?]
    by_cases hl : l ∈ Files.places σ.place (σ.way names) <;> simp [Change.directories, hl]

/-- The goal is an entry of a directory, and a path leads there. -/
theorem Made.exists_goal (hm : σ.Made content names fs mid) (hr : σ.Ready content names fs) (code? : Option String) :
    ∃ (q : Path) (e : Location) (k : Name), σ.out.append (σ.goal fs names code?) = q.through [.into k] ∧
      σ.outAt ++ σ.goal fs names code? = e ++ [k] ∧
      mid.follow false q.route = .ok (.directory e) ∧ k.fits = true ∧
      (σ.out.append (σ.goal fs names code?)).hasNull = false := by
  obtain ⟨front, n, rfl, hn⟩ := hr.exists_concat
  have habove := hm.above
  rw [List.dropLast_concat] at habove
  have hpath : σ.out.append (front ++ [n]) = (σ.out.append front).through [.into n] := Path.append_concat _ _ _
  unfold goal
  split
  · rename_i hgoal
    obtain ⟨-, -, hdirectory⟩ := hgoal
    rw [← hm.directory, FileSystem.isDirectoryAt, decide_eq_true_eq, ← List.append_assoc] at hdirectory
    have hfits : ∀ k ∈ front ++ [n] ++ [n], k.fits = true := by
      intro k hk
      rcases List.mem_append.mp hk with hk | hk
      · exact hr.fits k hk
      · obtain rfl : k = n := by simpa using hk
        exact hn
    refine ⟨σ.out.append (front ++ [n]), σ.outAt ++ front ++ [n], n, ?_, by simp, ?_, hn, ?_⟩
    · simpa using Path.append_concat σ.out (front ++ [n]) n
    · rw [hpath]
      exact (FileSystem.follow_into false habove hn).2.1 hdirectory
    · simpa using hasNull_out_append σ hfits
  · exact ⟨σ.out.append front, σ.outAt ++ front, n, hpath, by simp, habove, hn, hasNull_out_append σ hr.fits⟩

/-- What is written to the goal. -/
theorem Made.write (hm : σ.Made content names fs mid) (hr : σ.Ready content names fs) (code? : Option String) (bytes : ByteArray) :
    mid.write (σ.out.append (σ.goal fs names code?)) bytes =
      if (σ.out.append (σ.goal fs names code?)).IsLong then
        .error (.refused .nameTooLong (σ.out.append (σ.goal fs names code?)))
      else if σ.directoryAt fs names (σ.outAt ++ σ.goal fs names code?) = true then
        .error (.refused .isDirectory (σ.out.append (σ.goal fs names code?)))
      else .ok (mid.putFile (σ.outAt ++ σ.goal fs names code?) bytes) := by
  obtain ⟨q, e, k, hpath, hat, hq, hk, hnull⟩ := hm.exists_goal hr code?
  by_cases hlong : (σ.out.append (σ.goal fs names code?)).IsLong
  · rw [if_pos hlong, FileSystem.write_of_long hnull hlong]
  · have hlegal := Path.legal_of_not_isLong hnull hlong
    have hlink := hm.noLink (σ.goal fs names code?)
    rw [if_neg hlong, ← hm.directory]
    rw [hpath] at hlegal ⊢
    rw [hat] at hlink ⊢
    exact FileSystem.write_into hq hk hlegal hlink

/-- Whether a copy goes into a directory, and to which goal. -/
theorem Made.copy_goal (hm : σ.Made content names fs mid) (hr : σ.Ready content names fs) :
    mid.isDirectory (σ.out.append names) =
        decide (¬ (σ.out.append names).IsLong ∧ σ.directoryAt fs names (σ.outAt ++ names) = true) ∧
      (if mid.isDirectory (σ.out.append names) then (σ.out.append names).enter (σ.dir.append names) else σ.out.append names) =
        σ.out.append (σ.goal fs names none) := by
  obtain ⟨front, n, rfl, hn⟩ := hr.exists_concat
  have habove := hm.above
  rw [List.dropLast_concat] at habove
  have hnull := hasNull_out_append σ hr.fits
  have hlink := hm.noLink (front ++ [n])
  have hwithin : mid.isDirectory (σ.out.append (front ++ [n])) =
      decide (¬ (σ.out.append (front ++ [n])).IsLong ∧ σ.directoryAt fs (front ++ [n]) (σ.outAt ++ (front ++ [n])) = true) := by
    rw [← hm.directory]
    rw [Path.append_concat] at hnull ⊢
    rw [← List.append_assoc] at hlink ⊢
    rw [FileSystem.isDirectory_into habove hn hnull hlink, Bool.decide_and, Bool.decide_eq_true, decide_not]
  have henter : (σ.out.append (front ++ [n])).enter (σ.dir.append (front ++ [n])) = σ.out.append (front ++ [n] ++ [n]) := by
    simp [Path.enter, Path.writtenSteps, Path.append]
  refine ⟨hwithin, ?_⟩
  rw [hwithin, goal]
  simp only [true_and, decide_eq_true_eq, List.getLast?_concat, Option.toList_some]
  split
  · exact henter
  · rfl

/-- Where the two directories are the same a file is in its own place, and no directory is. -/
theorem Made.not_directoryAt_of_same (hm : σ.Made content names fs mid) (hsame : σ.inn = σ.outAt) :
    σ.directoryAt fs names (σ.outAt ++ names) = false := by
  rw [← hm.directory, ← hsame, FileSystem.isDirectoryAt, hm.file]
  rfl

theorem Made.goal_of_same (hm : σ.Made content names fs mid) (hsame : σ.inn = σ.outAt) (code? : Option String) :
    σ.goal fs names code? = names := by
  rw [goal, if_neg (by simp [hm.not_directoryAt_of_same hsame])]

/-- A copy would go onto the file itself when the two directories are the same. -/
theorem Made.same (hm : σ.Made content names fs mid) (hr : σ.Ready content names fs) :
    mid.same (σ.dir.append names) (σ.out.append (σ.goal fs names none)) =
      decide (¬ (σ.dir.append names).IsLong ∧ ¬ (σ.out.append (σ.goal fs names none)).IsLong ∧ σ.inn = σ.outAt) := by
  obtain ⟨q, e, k, hpath, hat, hq, hk, -⟩ := hm.exists_goal hr none
  have hlink := hm.noLink (σ.goal fs names none)
  rw [hat] at hlink
  have hlocate := FileSystem.locate?_into hq hk hlink
  rw [← hpath, ← hat] at hlocate
  rw [FileSystem.same, hlocate, hm.locate?]
  by_cases hinput : (σ.dir.append names).IsLong
  · simp [hinput]
  · by_cases hsame : σ.inn = σ.outAt
    · have hgoal := hm.goal_of_same hsame none
      have hfile := hm.file
      rw [hsame] at hfile ⊢
      rw [hgoal, hfile]
      by_cases hlong : (σ.out.append names).IsLong <;> simp [hinput, hlong]
    · have hne : ¬ (σ.inn ++ names = σ.outAt ++ σ.goal fs names none) := fun heq => hsame (σ.eq_of_append_eq heq)
      by_cases hlong : (σ.out.append (σ.goal fs names none)).IsLong <;>
        cases mid.get? (σ.outAt ++ σ.goal fs names none) <;> simp [hinput, hsame, hlong, hne]

/-- What a copy comes to. -/
theorem Made.copy (hm : σ.Made content names fs mid) (hr : σ.Ready content names fs) :
    mid.copy (σ.dir.append names) (σ.out.append names) =
      if (σ.dir.append names).IsLong then .error (.refused .nameTooLong (σ.dir.append names))
      else if (σ.out.append (σ.goal fs names none)).IsLong then
        .error (.refused .nameTooLong (σ.out.append (σ.goal fs names none)))
      else if σ.inn = σ.outAt then .error (.sameFile (σ.dir.append names) (σ.out.append names) false)
      else if σ.directoryAt fs names (σ.outAt ++ σ.goal fs names none) = true then
        .error (.refused .isDirectory (σ.out.append (σ.goal fs names none)))
      else .ok (mid.putFile (σ.outAt ++ σ.goal fs names none) (content names)) := by
  obtain ⟨hwithin, hgoal⟩ := hm.copy_goal hr
  obtain ⟨hinput, hfollow⟩ := hm.input false
  obtain ⟨q, e, k, hpath, hat, hq, hk, hnull⟩ := hm.exists_goal hr none
  have hsame := hm.same hr
  have hread := FileSystem.readBytes_of_file hinput hfollow
  have hwrite := hm.write hr none (content names)
  by_cases hlong : (σ.dir.append names).IsLong
  · rw [if_pos hlong] at hread ⊢
    exact FileSystem.copy_of_unread hgoal hinput hnull (by simp [hsame, hlong]) hread
  rw [if_neg hlong] at hread ⊢
  by_cases hlong' : (σ.out.append (σ.goal fs names none)).IsLong
  · rw [FileSystem.copy_of_ne hgoal hinput hnull (by simp [hsame, hlong']) hread, hwrite, if_pos hlong', if_pos hlong']
  rw [if_neg hlong'] at hwrite ⊢
  by_cases hin : σ.inn = σ.outAt
  · have hgoal' := hm.goal_of_same hin none
    rw [FileSystem.copy_of_same hgoal hinput hnull (by simp [hsame, hlong, hlong', hin]), if_pos hin, hgoal', hwithin]
    simp [hm.not_directoryAt_of_same hin]
  · rw [FileSystem.copy_of_ne hgoal hinput hnull (by simp [hsame, hin]) hread, hwrite, if_neg hin]
    by_cases hdirectory : σ.directoryAt fs names (σ.outAt ++ σ.goal fs names none) = true
    · rw [if_pos hdirectory]
      have hlink := hm.noLink (σ.goal fs names none)
      have hdir : mid.isDirectory (σ.out.append (σ.goal fs names none)) = true := by
        rw [← hm.directory] at hdirectory
        rw [hpath] at hnull hlong' ⊢
        rw [hat] at hlink hdirectory
        rw [FileSystem.isDirectory_into hq hk hnull hlink, hdirectory]
        simpa using hlong'
      dsimp only
      rw [if_pos (FileSystem.holds_of_isDirectory hdir)]
    · rw [if_neg hdirectory]

/-! ## Deliveries -/

theorem goal_of_code (σ : Site) (fs : FileSystem) (names : List Name) (code : String) : σ.goal fs names (some code) = names := by
  simp [goal]

/-- The file is written or copied unless there is a reason not to. -/
theorem Made.written (hm : σ.Made content names fs mid) (hr : σ.Ready content names fs)
    (hshort : ¬ (σ.out.append names.dropLast).IsLong) (hopen : fs.isOpen σ.place (σ.way names) = true) :
    (match code? with
      | some code => mid.write (σ.out.append names) (Text.Utf8.encode code)
      | none => mid.copy (σ.dir.append names) (σ.out.append names)) =
      match σ.refusal? fs names code? with
      | some error => .error error
      | none => .ok (mid.putFile (σ.outAt ++ σ.goal fs names code?) (delivered (content names) code?)) := by
  unfold refusal?
  rw [if_neg hshort, if_neg (by simp [hopen])]
  cases code? with
  | some code =>
    have hwrite := hm.write hr (some code) (Text.Utf8.encode code)
    rw [goal_of_code] at hwrite ⊢
    dsimp only
    rw [hwrite]
    simp only [reduceCtorEq, false_and, if_false]
    split
    · rfl
    split <;> rfl
  | none =>
    dsimp only
    rw [hm.copy hr]
    simp only [true_and]
    split
    · rfl
    split
    · rfl
    split
    · rfl
    split <;> rfl

end Site

theorem deliver_of_stopped {fs mid : FileSystem} {input output : Path} {error : Files.Error} (hne : output ≠ input)
    (h : fs.ensure output.parent = ⟨mid, some error⟩) (code? : Option String) :
    deliver fs input output code? = ⟨mid, some error⟩ := by
  rw [deliver, if_neg hne, h]

theorem deliver_of_made {fs mid : FileSystem} {input output : Path} {code? : Option String} (hne : output ≠ input)
    (h : fs.ensure output.parent = ⟨mid, none⟩) :
    deliver fs input output code? =
      match (match code? with
        | some code => mid.write output (Text.Utf8.encode code)
        | none => mid.copy input output) with
      | .ok after => ⟨after, none⟩
      | .error error => ⟨mid, some error⟩ := by
  have hcopy : (if output = input then .ok mid else mid.copy input output) = mid.copy input output := if_neg hne
  rw [deliver, if_neg hne, h]
  cases code? with
  | some code => exact rfl
  | none =>
    exact congrArg (fun written : Except Files.Error FileSystem => match written with
      | .ok after => (⟨after, none⟩ : FileSystem.Attempt)
      | .error error => ⟨mid, some error⟩) hcopy

namespace Site

variable {σ : Site} {fs : FileSystem} {content : List Name → ByteArray} {names : List Name}

/-- The file is written where none but a file stands. -/
theorem Made.isFree_goal {mid : FileSystem} {code? : Option String} (hm : σ.Made content names fs mid)
    (hr : σ.Ready content names fs) (h : σ.directoryAt fs names (σ.outAt ++ σ.goal fs names code?) = false) :
    mid.isFree (σ.outAt ++ σ.goal fs names code?) = true := by
  obtain ⟨q, e, k, -, hat, hq, hk, -⟩ := hm.exists_goal hr code?
  rw [← hm.directory] at h
  rw [hat] at h ⊢
  exact FileSystem.isFree_into hq hk (by simpa [FileSystem.isDirectoryAt] using h)

/-- When there is no reason against a delivery. -/
theorem refusal?_eq_none_iff (σ : Site) {code? : Option String} :
    σ.refusal? fs names code? = none ↔
      ¬ (σ.out.append names.dropLast).IsLong ∧ fs.isOpen σ.place (σ.way names) = true ∧
        ¬ (code? = none ∧ (σ.dir.append names).IsLong) ∧ ¬ (σ.out.append (σ.goal fs names code?)).IsLong ∧
          ¬ (code? = none ∧ σ.inn = σ.outAt) ∧ σ.directoryAt fs names (σ.outAt ++ σ.goal fs names code?) = false := by
  simp only [refusal?, ite_eq_iff, reduceCtorEq, and_false, false_or, and_true, Bool.not_eq_false, Bool.not_eq_true]

/-- What a delivery comes to. -/
theorem Ready.deliver (h : σ.Ready content names fs) (code? : Option String) :
    (σ.delivering fs names code? (content names)).Takes fs (deliver fs (σ.dir.append names) (σ.out.append names) code?).files ∧
      ((deliver fs (σ.dir.append names) (σ.out.append names) code?).error? = σ.refusal? fs names code? ∨
        fs.BlockedLate σ.place (σ.way names) ∧
          ∃ cause cause' shown shown',
            (deliver fs (σ.dir.append names) (σ.out.append names) code?).error? = some (.refused cause shown) ∧
            σ.refusal? fs names code? = some (.refused cause' shown')) := by
  have hne : σ.out.append names ≠ σ.dir.append names := fun heq => σ.out_ne_dir (Path.eq_of_append_eq heq)
  have hparent := σ.out.parent_append h.ne_nil
  have hnull : (σ.out.append names.dropLast).hasNull = false :=
    hasNull_out_append σ fun n hn => h.fits n (List.dropLast_subset _ hn)
  by_cases hlong : (σ.out.append names.dropLast).IsLong
  · have hstop := deliver_of_stopped hne (hparent.symm ▸ FileSystem.ensure_of_long fs hnull hlong) code?
    rw [hstop, delivering, refusal?, if_pos hlong, if_pos hlong, hparent]
    exact ⟨Change.Takes.refl fs, Or.inl rfl⟩
  have hlegal := Path.legal_of_not_isLong hnull hlong
  rw [out_append_dropLast] at hlegal
  have hensured := FileSystem.ensure_through h.base_leads hlegal h.noLink_way (σ.out_append_dropLast names ▸ h.reach)
  rw [← out_append_dropLast, ← hparent] at hensured
  cases hopen : fs.isOpen σ.place (σ.way names) with
  | false =>
    obtain ⟨cause, shown, herror, -⟩ := hensured.refused hopen
    have hrefusal : σ.refusal? fs names code? =
        some (.refused (fs.stopCause σ.place (σ.way names)) (σ.out.append names.dropLast)) := by
      rw [refusal?, if_neg hlong, if_pos hopen]
    rw [deliver_of_stopped hne (FileSystem.Attempt.eq_of_error herror), delivering, if_neg hlong, hrefusal]
    refine ⟨hensured.takes, ?_⟩
    by_cases hlate : fs.BlockedLate σ.place (σ.way names)
    · exact Or.inr ⟨hlate, cause, _, shown, _, rfl, rfl⟩
    · rw [← herror, hensured.told hopen (FileSystem.get?_of_not_blockedLate hlate hopen), hparent]
      exact Or.inl rfl
  | true =>
    have hmade := h.made hopen hensured.takes
    rw [deliver_of_made hne (FileSystem.Attempt.eq_of_made (hensured.made hopen)), hmade.written h hlong hopen,
      delivering, if_neg hlong]
    cases hrefusal : σ.refusal? fs names code? with
    | some error => exact ⟨hensured.takes, Or.inl rfl⟩
    | none =>
      have hfree := hmade.isFree_goal h (σ.refusal?_eq_none_iff.mp hrefusal).2.2.2.2.2
      exact ⟨hensured.takes.andThen (FileSystem.takes_putFile hfree _), Or.inl rfl⟩

/-- A delivery that is stopped behind a missing directory is told to be stopped where it is, and not on the way to where it goes. -/
theorem Ready.deliver_late {front back : List Step} {step : Step} {m : Location} (h : σ.Ready content names fs)
    (code? : Option String) (hway : σ.way names = front ++ [step] ++ back)
    (hshort : ¬ (σ.out.append names.dropLast).IsLong)
    (hopen : fs.isOpen σ.place front = true) (hm : m ∈ Files.places σ.place front) (hnone : fs.get? m = none)
    (hstop : fs.isOpen (Files.land σ.place front) [step] = false) :
    (Rewrite.deliver fs (σ.dir.append names) (σ.out.append names) code?).error? =
      some (.refused (fs.stopCause (Files.land σ.place front) [step]) (σ.base.through (front ++ [step]))) := by
  have hne : σ.out.append names ≠ σ.dir.append names := fun heq => σ.out_ne_dir (Path.eq_of_append_eq heq)
  have hnull : (σ.out.append names.dropLast).hasNull = false :=
    hasNull_out_append σ fun n hn => h.fits n (List.dropLast_subset _ hn)
  have hlegal := Path.legal_of_not_isLong hnull hshort
  have hlink := h.noLink_way
  have hreach := h.reach
  rw [out_append_dropLast, hway] at hlegal hreach
  rw [hway] at hlink
  have hensure := FileSystem.ensure_of_stopped_late h.base_leads hlegal hlink hopen hm hnone hstop hreach
  rw [← hway, ← out_append_dropLast, ← σ.out.parent_append h.ne_nil] at hensure
  rw [deliver_of_stopped hne (FileSystem.Attempt.eq_of_error hensure)]

end Site

end ClassChain.Rewrite

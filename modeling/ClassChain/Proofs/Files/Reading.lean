import ClassChain.Proofs.Files.Writing

/-!
# Reading what was written

A path that was walked to make a file leads to that file afterwards (`Grown.walk_to_file`): the making adds one file and moves
nothing that stood on the way. So a file that was written is read back with the content that it was given
(`readBytes_of_write`), and a copy with what its source holds (`readBytes_of_copy`).
-/

namespace ClassChain.Files

/-- Where a place is, or would be. -/
def Place.location : Place → Location
  | .file l _ => l
  | .directory l => l
  | .absent l n => l ++ [n]

namespace FileSystem

variable {fs after : FileSystem} {p : Path} {bytes : ByteArray}

/-- A way that led to a place leads to the file that now stands there. -/
theorem Grown.walk_to_file (hg : Grown fs after) {making : Bool} {links : Nat} {dir : Location} {steps : List Step} {place : Place}
    (hdir : fs.get? dir = some .directory) (h : fs.walk making links dir steps = .ok place)
    (hfile : after.get? place.location = some (.file bytes)) :
    after.walk false links dir steps = .ok (.file place.location bytes) := by
  fun_induction FileSystem.walk fs making links dir steps with
  | case1 links dir =>
    obtain rfl : Place.directory dir = place := by simpa using h
    have hstill := hg.directory hdir
    rw [Place.location, hstill] at hfile
    cases hfile
  | case2 _ _ _ ih | case3 _ _ _ ih => rw [FileSystem.walk]; exact ih hdir h
  | case4 _ _ _ ih => rw [FileSystem.walk]; exact ih (get?_dropLast hdir) h
  | case5 | case6 | case8 | case10 | case12 => simp at h
  | case7 links dir n hfits hnone _ =>
    obtain rfl : Place.absent dir n = place := by simpa using h
    rw [Place.location] at hfile ⊢
    rw [FileSystem.walk, if_neg (by simp), if_neg hfits, hfile]
    rfl
  | case9 links dir n hfits content hget _ =>
    obtain rfl : Place.file (dir ++ [n]) content = place := by simpa using h
    rw [Place.location] at hfile ⊢
    rw [FileSystem.walk, if_neg (by simp), if_neg hfits, hfile]
    rfl
  | case11 links dir n rest _ hfits hget ih =>
    rw [FileSystem.walk, if_neg (by simp), if_neg hfits, hg.directory hget]
    exact ih hget h
  | case13 dir n rest _ hfits target hget links route ih =>
    rw [FileSystem.walk, if_neg (by simp), if_neg hfits, hg.link hget]
    refine ih ?_ h
    split
    · exact get?_root fs
    · exact hdir

theorem Grown.follow_to_file (hg : Grown fs after) {making : Bool} {route : Route} {place : Place}
    (h : fs.follow making route = .ok place) (hfile : after.get? place.location = some (.file bytes)) :
    after.follow false route = .ok (.file place.location bytes) := by
  have hsame : after.start route = fs.start route := by rw [start, start, hg.standing]
  rw [follow_eq] at h ⊢
  rw [hsame]
  split at h
  · rename_i hstart
    have hdir : fs.get? (fs.start route) = some .directory := of_decide_eq_true hstart
    have hstill : after.isDirectoryAt (fs.start route) = true := decide_eq_true (hg.directory hdir)
    rw [if_pos hstill]
    exact hg.walk_to_file hdir h hfile
  · cases h

theorem Grown.resolve_to_file (hg : Grown fs after) {place : Place} (h : fs.resolveForMaking p = .ok place)
    (hfile : after.get? place.location = some (.file bytes)) : after.resolve p = .ok (.file place.location bytes) := by
  unfold resolveForMaking at h
  unfold FileSystem.resolve
  split at h
  · cases h
  · rename_i hshort
    rw [if_neg hshort]
    exact hg.follow_to_file h hfile

/-- A path that led to a file leads to it if it is there with more in the file system. -/
theorem Grown.resolve_of_file (hg : Grown fs after) {l : Location} {content : ByteArray} (h : fs.resolve p = .ok (.file l content))
    (hfile : after.get? l = some (.file bytes)) : after.resolve p = .ok (.file l bytes) := by
  unfold FileSystem.resolve at h ⊢
  split at h
  · cases h
  · rename_i hshort
    rw [if_neg hshort]
    exact hg.follow_to_file h hfile

/-- A file is written where the path leads to one, or to a place where nothing stands. -/
theorem exists_of_write (h : fs.write p bytes = .ok after) :
    p.hasNull = false ∧ ∃ place, fs.resolveForMaking p = .ok place ∧ fs.isFree place.location = true ∧
      (∀ e, fs.get? place.location = some e → ∃ old, e = .file old) ∧ after = fs.putFile place.location bytes := by
  unfold write at h
  split at h
  · cases h
  · rename_i hnull
    refine ⟨by simpa using hnull, ?_⟩
    split at h
    · rename_i l old hplace
      have hstands : fs.get? l = some (.file old) := stands_of_resolveForMaking hplace
      exact ⟨.file l old, hplace, isFree_of_file hstands, fun e he => ⟨old, Option.some.inj (he.symm.trans hstands)⟩,
        (Except.ok.inj h).symm⟩
    · rename_i l n hplace
      obtain ⟨hdir, hnone, hfits⟩ := stands_of_resolveForMaking hplace
      refine ⟨.absent l n, hplace, isFree_of_absent hdir hnone hfits, fun e he => ?_, (Except.ok.inj h).symm⟩
      rw [Place.location, hnone] at he
      cases he
    · cases h
    · cases h

theorem grown_of_write (h : fs.write p bytes = .ok after) : Grown fs after := by
  obtain ⟨-, place, -, hfree, hold, rfl⟩ := exists_of_write h
  refine (takes_putFile hfree bytes).grown fun m e hm => ?_
  obtain ⟨rfl, rfl⟩ := Change.file_eq_some.mp hm
  refine Or.inr ⟨⟨bytes, rfl⟩, ?_⟩
  cases hget : fs.get? place.location with
  | none => exact Or.inl rfl
  | some e =>
    obtain ⟨old, rfl⟩ := hold e hget
    exact Or.inr ⟨old, rfl⟩

/-- A path at which a file was written leads to it. -/
theorem resolve_of_write (h : fs.write p bytes = .ok after) : ∃ l, after.resolve p = .ok (.file l bytes) := by
  have hgrown := grown_of_write h
  obtain ⟨-, place, hplace, hfree, -, rfl⟩ := exists_of_write h
  refine ⟨place.location, hgrown.resolve_to_file hplace ?_⟩
  rw [get?_putFile hfree, if_pos rfl]

/-- A file that was written is read back. -/
theorem readBytes_of_write (h : fs.write p bytes = .ok after) : after.readBytes p = .ok bytes := by
  obtain ⟨l, hresolve⟩ := resolve_of_write h
  rw [readBytes, (exists_of_write h).1, if_neg (by simp), hresolve]

/-! ## Copying -/

/-- A path that leads to a directory leads to it with more in the file system. -/
theorem Grown.isDirectory (hg : Grown fs after) (h : fs.isDirectory p = true) : after.isDirectory p = true := by
  unfold FileSystem.isDirectory at h ⊢
  rw [Bool.and_eq_true] at h ⊢
  refine ⟨h.1, ?_⟩
  have hleads := h.2
  split at hleads
  · rename_i l hdirectory
    rw [hg.resolve hdirectory]
  · cases hleads

/-- What can be read is no directory. -/
theorem isDirectory_of_readBytes (h : fs.readBytes p = .ok bytes) : fs.isDirectory p = false := by
  unfold readBytes at h
  unfold FileSystem.isDirectory
  split at h
  · cases h
  · split at h
    · rename_i l content hfile
      rw [hfile, Bool.and_false]
    all_goals cases h

/-- A copy is written with what is read: into the target if this is a directory, and else in its place. -/
theorem exists_of_copy {source target : Path} (h : fs.copy source target = .ok after) :
    ∃ content, fs.readBytes source = .ok content ∧
      fs.write (if fs.isDirectory target then target.enter source else target) content = .ok after := by
  rw [copy] at h
  generalize (if fs.isDirectory target then target.enter source else target) = goal at h ⊢
  split at h
  · cases h
  split at h
  · cases h
  cases hread : fs.readBytes source with
  | error error =>
    rw [hread] at h
    cases h
  | ok content =>
    rw [hread] at h
    simp only [bind, Except.bind] at h
    split at h
    · cases h
    · exact ⟨content, rfl, h⟩

/-- After a copy a target that was a directory is one still, with the copy in it; any other is the copy. -/
theorem readBytes_of_copy {source target : Path} (h : fs.copy source target = .ok after) :
    after.isDirectory target = fs.isDirectory target ∧ ∃ content, fs.readBytes source = .ok content ∧
      after.readBytes (if fs.isDirectory target then target.enter source else target) = .ok content := by
  obtain ⟨content, hread, hwrite⟩ := exists_of_copy h
  have hwritten := readBytes_of_write hwrite
  refine ⟨?_, content, hread, hwritten⟩
  cases hdir : fs.isDirectory target with
  | true => exact (grown_of_write hwrite).isDirectory hdir
  | false =>
    rw [hdir, if_neg (by simp)] at hwritten
    exact isDirectory_of_readBytes hwritten

end FileSystem

end ClassChain.Files

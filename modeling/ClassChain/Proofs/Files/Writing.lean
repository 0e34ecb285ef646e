import ClassChain.Proofs.Files.Path
import ClassChain.Proofs.Files.Change

/-!
# Reading, writing and copying by path

What comes of an operation on a file, told by where the path leads. A file is read unless its path is too long
(`readBytes_of_file`). Into a directory a file is written unless its path is too long or a directory stands in its place
(`write_into`, `write_of_long`). A copy is the writing of what was read (`copy_of_ne`), unless that could not be read
(`copy_of_unread`) or would go onto the file itself (`copy_of_same`).
-/

namespace ClassChain.Files.FileSystem

variable {fs : FileSystem} {p q source target goal : Path} {e l : Location} {n : Name} {content bytes : ByteArray}

theorem resolve_of_long (h : p.IsLong) : fs.resolve p = .error .nameTooLong := if_pos h

theorem resolve_of_not_long (h : ¬ p.IsLong) : fs.resolve p = fs.follow false p.route := if_neg h

/-! ## Reading -/

/-- The content of the file that a path leads to. -/
theorem readBytes_of_file (hnull : p.hasNull = false) (h : fs.follow false p.route = .ok (.file l content)) :
    fs.readBytes p = if p.IsLong then .error (.refused .nameTooLong p) else .ok content := by
  rw [readBytes, hnull, if_neg (by simp)]
  by_cases hlong : p.IsLong
  · rw [resolve_of_long hlong, if_pos hlong]
  · rw [resolve_of_not_long hlong, h, if_neg hlong]

/-! ## Writing -/

theorem write_of_long (hnull : p.hasNull = false) (hlong : p.IsLong) : fs.write p bytes = .error (.refused .nameTooLong p) := by
  rw [write, hnull, if_neg (by simp), resolveForMaking, if_pos hlong]

/-- A file is written where one stands. -/
theorem write_of_file (hp : p.Legal) (h : fs.follow true p.route = .ok (.file l content)) :
    fs.write p bytes = .ok (fs.putFile l bytes) := by
  rw [write, hp.not_null, if_neg (by simp), resolveForMaking_of_legal hp, h]

/-- A place in a directory is free for a file when no directory stands there. -/
theorem isFree_into (hq : fs.follow false q.route = .ok (.directory e)) (hfits : n.fits = true)
    (hdir : fs.get? (e ++ [n]) ≠ some .directory) : fs.isFree (e ++ [n]) = true :=
  isFree_iff.mpr ⟨hfits, stands_of_follow hq, hdir⟩

/-- Into a directory a file is written unless a directory stands in its place. -/
theorem write_into (hq : fs.follow false q.route = .ok (.directory e)) (hfits : n.fits = true) (hp : (q.through [.into n]).Legal)
    (hlink : ∀ t, fs.get? (e ++ [n]) ≠ some (.link t)) :
    fs.write (q.through [.into n]) bytes =
      if fs.isDirectoryAt (e ++ [n]) then .error (.refused .isDirectory (q.through [.into n]))
      else .ok (fs.putFile (e ++ [n]) bytes) := by
  obtain ⟨hnone, hdirectory, hfile⟩ := follow_into true hq hfits
  rw [write, hp.not_null, if_neg (by simp), resolveForMaking_of_legal hp]
  cases hget : fs.get? (e ++ [n]) with
  | none => simp [hnone hget, isDirectoryAt, hget]
  | some entry =>
    cases entry with
    | file old => simp [hfile old hget, isDirectoryAt, hget]
    | directory => simp [hdirectory hget, isDirectoryAt, hget]
    | link t => exact absurd hget (hlink t)

/-! ## Asking -/

/-- Whether a path into a directory leads to a directory. -/
theorem isDirectory_into (hq : fs.follow false q.route = .ok (.directory e)) (hfits : n.fits = true)
    (hnull : (q.through [.into n]).hasNull = false) (hlink : ∀ t, fs.get? (e ++ [n]) ≠ some (.link t)) :
    fs.isDirectory (q.through [.into n]) = (!decide ((q.through [.into n]).IsLong) && fs.isDirectoryAt (e ++ [n])) := by
  rw [isDirectory, hnull]
  by_cases hlong : (q.through [.into n]).IsLong
  · simp [resolve_of_long hlong, hlong]
  · obtain ⟨hnone, hdirectory, hfile⟩ := follow_into false hq hfits
    rw [resolve_of_not_long hlong]
    cases hget : fs.get? (e ++ [n]) with
    | none => simp [hnone hget, isDirectoryAt, hget]
    | some entry =>
      cases entry with
      | file old => simp [hfile old hget, isDirectoryAt, hget]
      | directory => simp [hdirectory hget, isDirectoryAt, hget, hlong]
      | link t => exact absurd hget (hlink t)

theorem holds_of_isDirectory (h : fs.isDirectory p = true) : fs.holds p = true := by
  unfold isDirectory at h
  unfold holds
  rw [Bool.and_eq_true] at h ⊢
  refine ⟨h.1, ?_⟩
  generalize fs.resolve p = outcome at h ⊢
  match outcome with
  | .ok (.directory _) => rfl
  | .ok (.file _ _) | .ok (.absent _ _) | .error _ => simp at h

/-- Where a path into a directory leads if anything stands there. -/
theorem locate?_into (hq : fs.follow false q.route = .ok (.directory e)) (hfits : n.fits = true)
    (hlink : ∀ t, fs.get? (e ++ [n]) ≠ some (.link t)) :
    fs.locate? (q.through [.into n]) =
      if ¬ (q.through [.into n]).IsLong ∧ (fs.get? (e ++ [n])).isSome = true then some (e ++ [n]) else none := by
  rw [locate?]
  by_cases hlong : (q.through [.into n]).IsLong
  · simp [resolve_of_long hlong, hlong]
  · obtain ⟨hnone, hdirectory, hfile⟩ := follow_into false hq hfits
    rw [resolve_of_not_long hlong]
    cases hget : fs.get? (e ++ [n]) with
    | none => simp [hnone hget]
    | some entry =>
      cases entry with
      | file old => simp [hfile old hget, hlong]
      | directory => simp [hdirectory hget, hlong]
      | link t => exact absurd hget (hlink t)

/-! ## Copying -/

/-- A copy onto the file itself is refused. -/
theorem copy_of_same (hgoal : (if fs.isDirectory target then target.enter source else target) = goal)
    (hsource : source.hasNull = false) (hnull : goal.hasNull = false) (hsame : fs.same source goal = true) :
    fs.copy source target = .error (.sameFile source goal (fs.isDirectory target)) := by
  rw [copy]
  rw [hgoal, hsource, hnull, if_neg (by simp), if_pos hsame]

/-- What cannot be read is not copied. -/
theorem copy_of_unread {error : Error} (hgoal : (if fs.isDirectory target then target.enter source else target) = goal)
    (hsource : source.hasNull = false) (hnull : goal.hasNull = false) (hsame : fs.same source goal = false)
    (hread : fs.readBytes source = .error error) : fs.copy source target = .error error := by
  rw [copy, hgoal, hsource, hnull, if_neg (by simp), if_neg (by simp [hsame]), hread]
  rfl

/-- A copy elsewhere is the writing of what is read. -/
theorem copy_of_ne (hgoal : (if fs.isDirectory target then target.enter source else target) = goal)
    (hsource : source.hasNull = false) (hnull : goal.hasNull = false) (hsame : fs.same source goal = false)
    (hread : fs.readBytes source = .ok content) :
    fs.copy source target =
      match fs.write goal content with
      | .error (.refused .isDirectory _) => .error (if fs.holds goal then .refused .isDirectory goal else .noDirectory goal)
      | written => written := by
  rw [copy, hgoal, hsource, hnull, if_neg (by simp), if_neg (by simp [hsame]), hread]
  rfl

end ClassChain.Files.FileSystem

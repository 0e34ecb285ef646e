import ClassChain.Files.Operation

/-!
# Placing entries

A file system is set up entry by entry: an entry is placed at a path with the directories that are missing above it, and taken
away with all that is below it. A link in the last place of a path is not followed when something is taken away.

`get?_of_discard` says what is left.
-/

namespace ClassChain.Files.FileSystem

/-- The directory in which the last step of a path is taken, and the name it goes into. -/
def lastPlace (fs : FileSystem) (p : Path) : Except Error (Location × Name) :=
  if p.hasNull then .error .nullCharacter
  else
    match p.steps.getLast?, fs.resolve p.parent with
    | some (.into n), .ok (.directory dir) => .ok (dir, n)
    | _, .ok (.file _ _) => .error (.refused .notDirectory p)
    | _, .ok (.absent _ _) => .error (.refused .missing p)
    | _, .ok (.directory _) => .error (.refused .isDirectory p)
    | _, .error cause => .error (.refused cause p)

/-- The greatest number of bytes in the target of a link. -/
def targetLimit : Nat := 4095

/-- Sets a link at a path, where nothing may stand. -/
def link (fs : FileSystem) (p : Path) (target : String) : Except Error FileSystem :=
  if target.toList.contains '\x00' then .error .nullCharacter
  else if target = "" then .error (.refusedLink .missing target p)
  else if targetLimit < target.utf8ByteSize then .error (.refusedLink .nameTooLong target p)
  else
    match fs.lastPlace p with
    | .error (.refused cause _) => .error (.refusedLink cause target p)
    | .error error => .error error
    | .ok (dir, n) =>
      if !n.fits then .error (.refusedLink .nameTooLong target p)
      else if (fs.get? (dir ++ [n])).isSome then .error (.refusedLink .exists target p)
      else .ok (fs.putLink (dir ++ [n]) target)

/-- Places an entry at a path, with the directories that are missing above it. -/
def place (fs : FileSystem) (p : Path) (entry : Entry) : Attempt :=
  match fs.ensure p.parent with
  | ⟨above, none⟩ =>
    let placed : Except Error FileSystem := match entry with
      | .file content => above.write p content
      | .link target => above.link p target
      | .directory => if above.isDirectory p then .ok above else above.makeOne p
    match placed with
    | .ok after => ⟨after, none⟩
    | .error error => ⟨above, some error⟩
  | stopped => stopped

/-- Takes away what stands at a path, with all below it. -/
def discard (fs : FileSystem) (p : Path) : Except Error FileSystem := do
  let (dir, n) ← fs.lastPlace p
  if (fs.get? (dir ++ [n])).isSome then .ok (fs.remove (dir ++ [n])) else .error (.refused .missing p)

/-- What is left has nothing at one location and below it, where something stood, and is as it was elsewhere. -/
theorem get?_of_discard {fs after : FileSystem} {p : Path} (h : fs.discard p = .ok after) :
    ∃ l, (fs.get? l).isSome ∧ ∀ m, after.get? m = if l <+: m then none else fs.get? m := by
  simp only [discard, bind, Except.bind] at h
  split at h
  · simp at h
  · rename_i place _
    split at h
    · rename_i hs
      simp only [Except.ok.injEq] at h
      exact ⟨place.1 ++ [place.2], hs, fun m => h ▸ get?_remove (by simp) m⟩
    · simp at h

end ClassChain.Files.FileSystem

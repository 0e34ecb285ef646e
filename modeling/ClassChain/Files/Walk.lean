import ClassChain.Files.FileSystem
import ClassChain.Files.Error

/-!
# Walking a way

Where a way leads in a file system: to a file, to a directory, or to a place in a directory where nothing stands yet. Links are
followed wherever they stand, at most forty of them on one way. Names and paths have a greatest length. Who is about to make a
file is not even let look at a name with a slash after it.

`stands_of_walk` says that what a walk finds stands where it was found.
-/

namespace ClassChain.Files

/-- The greatest number of links on one way. -/
def linkLimit : Nat := 40

/-- The greatest number of bytes in a path. -/
def pathLimit : Nat := 4095

/-- Where a way leads. -/
inductive Place where
  /-- To a file. -/
  | file (l : Location) (content : ByteArray)
  /-- To a directory. -/
  | directory (l : Location)
  /-- To a name that nothing has in a directory. -/
  | absent (l : Location) (n : Name)
  deriving DecidableEq

namespace FileSystem

/-- Walks from a directory, with a number of links left to follow; `making` says that a file is to be made at the end. -/
def walk (fs : FileSystem) (making : Bool) (links : Nat) (dir : Location) (steps : List Step) : Except Cause Place :=
  match steps with
  | [] => .ok (.directory dir)
  | .here :: rest => walk fs making links dir rest
  | .close :: rest => walk fs making links dir rest
  | .up :: rest => walk fs making links dir.dropLast rest
  | .into n :: rest =>
    if making ∧ rest = [.close] then .error .isDirectory
    else if !n.fits then .error .nameTooLong
    else
      match fs.get? (dir ++ [n]) with
      | none => if rest = [] then .ok (.absent dir n) else .error .missing
      | some (.file content) => if rest = [] then .ok (.file (dir ++ [n]) content) else .error .notDirectory
      | some .directory => walk fs making links (dir ++ [n]) rest
      | some (.link target) =>
        match links with
        | 0 => .error .tooManyLinks
        | links + 1 =>
          let route := Route.ofText target
          walk fs making links (if route.fromRoot then [] else dir) (route.steps ++ rest)
termination_by (links, steps.length)

/-- Where a way leads from its start: the root, or where the program stands. -/
def follow (fs : FileSystem) (making : Bool) (route : Route) : Except Cause Place :=
  let start := if route.fromRoot then [] else fs.standing
  if fs.isDirectoryAt start then fs.walk making linkLimit start route.steps else .error .missing

/-- Where a path leads. -/
def resolve (fs : FileSystem) (p : Path) : Except Cause Place :=
  if pathLimit < p.text.utf8ByteSize then .error .nameTooLong else fs.follow false p.route

/-- Where a path leads for one who is about to make a file there. -/
def resolveForMaking (fs : FileSystem) (p : Path) : Except Cause Place :=
  if pathLimit < p.text.utf8ByteSize then .error .nameTooLong else fs.follow true p.route

/-- Where a text leads that names a path as it stands. -/
def resolveText (fs : FileSystem) (text : String) : Except Cause Place :=
  if text = "" then .error .missing
  else if pathLimit < text.utf8ByteSize then .error .nameTooLong
  else fs.follow false (Route.ofText text)

/-- A path leads to a directory. -/
def isDirectory (fs : FileSystem) (p : Path) : Bool :=
  !p.hasNull && match fs.resolve p with
    | .ok (.directory _) => true
    | _ => false

/-- A path leads to a file or a directory. -/
def holds (fs : FileSystem) (p : Path) : Bool :=
  !p.hasNull && match fs.resolve p with
    | .ok (.directory _) | .ok (.file _ _) => true
    | _ => false

/-- What a place says of the file system it was found in. -/
def Stands (fs : FileSystem) : Place → Prop
  | .file l content => fs.get? l = some (.file content)
  | .directory l => fs.get? l = some .directory
  | .absent l n => fs.get? l = some .directory ∧ fs.get? (l ++ [n]) = none ∧ n.fits = true

theorem get?_dropLast {fs : FileSystem} {l : Location} (h : fs.get? l = some .directory) :
    fs.get? l.dropLast = some .directory := by
  rcases List.eq_nil_or_concat l with rfl | ⟨m, n, rfl⟩
  · simp
  · rw [List.concat_eq_append] at h ⊢
    rw [List.dropLast_concat]
    exact get?_above (n := n) (by rw [h]; simp)

/-- What a walk finds stands there. -/
theorem stands_of_walk {fs : FileSystem} {making : Bool} {links : Nat} {dir : Location} {steps : List Step} {place : Place}
    (hd : fs.get? dir = some .directory) (h : fs.walk making links dir steps = .ok place) : fs.Stands place := by
  fun_induction walk fs making links dir steps with
  | case1 => simp only [Except.ok.injEq] at h; subst h; exact hd
  | case2 _ _ _ ih => exact ih hd h
  | case3 _ _ _ ih => exact ih hd h
  | case4 _ _ _ ih => exact ih (get?_dropLast hd) h
  | case5 => simp at h
  | case6 => simp at h
  | case7 _ _ _ hfits hnone _ =>
    simp only [Except.ok.injEq] at h
    subst h
    exact ⟨hd, hnone, by simpa using hfits⟩
  | case8 => simp at h
  | case9 => simp only [Except.ok.injEq] at h; subst h; assumption
  | case10 => simp at h
  | case11 _ _ _ _ _ _ hn ih => exact ih hn h
  | case12 => simp at h
  | case13 _ _ _ _ _ _ _ _ _ ih =>
    refine ih ?_ h
    split
    · simp
    · exact hd

/-- What a way leads to stands there. -/
theorem stands_of_follow {fs : FileSystem} {making : Bool} {route : Route} {place : Place}
    (h : fs.follow making route = .ok place) : fs.Stands place := by
  unfold follow at h
  dsimp only at h
  generalize (if route.fromRoot then [] else fs.standing) = start at h
  split at h
  · rename_i hd
    exact stands_of_walk (of_decide_eq_true hd) h
  · cases h

/-- What a path leads to stands there. -/
theorem stands_of_resolve {fs : FileSystem} {p : Path} {place : Place} (h : fs.resolve p = .ok place) :
    fs.Stands place := by
  unfold resolve at h
  split at h
  · simp at h
  · exact stands_of_follow h

/-- What a path leads to for one who is about to make a file stands there. -/
theorem stands_of_resolveForMaking {fs : FileSystem} {p : Path} {place : Place} (h : fs.resolveForMaking p = .ok place) :
    fs.Stands place := by
  unfold resolveForMaking at h
  split at h
  · simp at h
  · exact stands_of_follow h

end FileSystem

end ClassChain.Files

import ClassChain.Files.Operation

/-!
# Listing a directory

The files below a directory, with the directories on a list left out wherever they stand. Links to files are listed, and so are
links that lead nowhere; a link to a directory is neither listed nor followed. A directory is opened by its path from the top, so
one whose path is too long cannot be looked into, and what it holds is not listed. The listing of a directory stands within that of
the one above it, and where directories stand too deep the whole listing ends in an error.

`length_lt_height` bounds the depth of a listing by the longest location.
-/

namespace ClassChain.Files

namespace FileSystem

/-- The length of the longest location. -/
def height (fs : FileSystem) : Nat := (fs.toList.map (·.1.length)).foldr max 0

/-- What stands directly in a directory. -/
def children (fs : FileSystem) (dir : Location) : List (Name × Entry) :=
  fs.toList.filterMap fun (l, e) =>
    match l.getLast? with
    | some n => if l.dropLast = dir then some (n, e) else none
    | none => none

theorem le_foldr_max {n : Nat} {ns : List Nat} (h : n ∈ ns) : n ≤ ns.foldr max 0 := by
  induction ns with
  | nil => simp at h
  | cons m ns ih =>
    rw [List.foldr_cons]
    rcases List.mem_cons.mp h with rfl | h
    · exact Nat.le_max_left _ _
    · exact Nat.le_trans (ih h) (Nat.le_max_right _ _)

theorem mem_toList_of_mem_children {fs : FileSystem} {dir : Location} {n : Name} {e : Entry}
    (h : (n, e) ∈ fs.children dir) : (dir ++ [n], e) ∈ fs.toList := by
  simp only [children, List.mem_filterMap, Prod.exists] at h
  obtain ⟨l, e', hmem, h⟩ := h
  rcases List.eq_nil_or_concat l with rfl | ⟨m, k, rfl⟩
  · simp at h
  · rw [List.concat_eq_append] at h hmem
    simp only [List.getLast?_concat, List.dropLast_concat] at h
    split at h
    · simp only [Option.some.injEq, Prod.mk.injEq] at h
      obtain ⟨rfl, rfl⟩ := h
      rename_i hd
      exact hd ▸ hmem
    · simp at h

/-- A directory with something in it is not as deep as the longest location. -/
theorem length_lt_height {fs : FileSystem} {dir : Location} {child : Name × Entry} (h : child ∈ fs.children dir) :
    dir.length < fs.height := by
  obtain ⟨n, e⟩ := child
  have hmem : (dir ++ [n]).length ∈ fs.toList.map (·.1.length) :=
    List.mem_map.mpr ⟨_, mem_toList_of_mem_children h, rfl⟩
  have := le_foldr_max hmem
  simp only [List.length_append, List.length_singleton] at this
  exact this

/-- The files below a directory, which a path leads to, by the names that lead to them from there; without those under a directory
left out. -/
def filesBelow (fs : FileSystem) (leftOut : Name → Bool) (path : Path) (dir : Location) : List (List Name) :=
  if pathLimit < path.text.utf8ByteSize then []
  else
    (fs.children dir).attach.flatMap fun ⟨(n, e), _h⟩ =>
      match e with
      | .file _ => [[n]]
      | .link _ => if fs.isDirectory (path.append [n]) then [] else [[n]]
      | .directory => if leftOut n then [] else (filesBelow fs leftOut (path.append [n]) (dir ++ [n])).map (n :: ·)
termination_by fs.height - dir.length
decreasing_by
  have := length_lt_height _h
  simp only [List.length_append, List.length_singleton]
  omega

/-- A listing of the directory comes to one that stands as many directories below. -/
def descends (fs : FileSystem) (leftOut : Name → Bool) (path : Path) (dir : Location) : Nat → Bool
  | 0 => true
  | depth + 1 => decide (path.text.utf8ByteSize ≤ pathLimit) &&
      (fs.children dir).any fun (n, e) =>
        e = .directory && !leftOut n && fs.descends leftOut (path.append [n]) (dir ++ [n]) depth

/-- The greatest number of directories that a listing goes down. -/
def descentLimit : Nat := 980

/-- The files below the directory that a path leads to; none if it leads to no directory. -/
def find (fs : FileSystem) (leftOut : Name → Bool) (root : Path) : Except Error (List (List Name)) :=
  if root.hasNull then .error .nullCharacter
  else
    match fs.resolve root with
    | .ok (.directory dir) =>
      if fs.descends leftOut root.written dir (descentLimit + 1) then .error (.tooDeep .listing)
      else .ok (fs.filesBelow leftOut root.written dir)
    | _ => .ok []

end FileSystem

end ClassChain.Files

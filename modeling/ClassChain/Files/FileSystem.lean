import Std.Data.ExtTreeMap
import ClassChain.Files.Path

/-!
# File systems

A file system holds files, links and directories at locations, the names that lead to them from the root, which is a directory.
The program stands at one of them. Whatever has a location has a directory above it, and a name that fits: this goes with every
file system, so that whoever meets an entry may go up from it and speak of it.

Three operations change a file system: `putFile`, `putLink` and `makeDirectory` set one location each, and `remove` clears one
with all below it. Where the place is not fit for it an operation changes nothing. The lemmas `get?_putFile`,
`get?_makeDirectory` and so on say what each does to every location, and `ext` that two file systems with the same entries are
the same when the program stands at the same location.

Not every file system is one of these. Four things are left out, and what is proved here says nothing of them: nothing is refused for
want of rights; a content stands at one location and has no second name; a file has no owner, no times and no rights of its own, so a
copy is one of the content and fails with the content only; and names are text.
-/

namespace ClassChain.Files

/-- The names that lead from the root to a place. -/
abbrev Location := List Name

/-- Contents are compared byte by byte. -/
instance instDecidableEqContent : DecidableEq ByteArray := ByteArray.instDecidableEq

/-- What can stand at a location. -/
inductive Entry where
  /-- A file with its content. -/
  | file (content : ByteArray)
  /-- A link to what its text names from the directory it stands in. -/
  | link (target : String)
  /-- A directory. -/
  | directory
  deriving DecidableEq

/-- The files, links and directories below the root. -/
structure FileSystem where
  /-- What stands where, the root left out. -/
  entries : Std.ExtTreeMap Location Entry
  /-- Where the program stands. -/
  standing : Location
  /-- The root is no entry. -/
  root_not_mem : entries[([] : Location)]? = none
  /-- Above every entry there is the root or a directory. -/
  above_isDirectory : ∀ (l : Location) (n : Name), entries[l ++ [n]]? ≠ none → l = [] ∨ entries[l]? = some .directory
  /-- Every entry has a name that fits. -/
  fits_of_entry : ∀ (l : Location) (n : Name), entries[l ++ [n]]? ≠ none → n.fits = true

namespace FileSystem

/-- The file system with nothing below the root. -/
def empty : FileSystem where
  entries := ∅
  standing := []
  root_not_mem := by simp
  above_isDirectory := by intro l n h; simp at h
  fits_of_entry := by intro l n h; simp at h

instance : Inhabited FileSystem := ⟨empty⟩

/-- What stands at a location. -/
def get? (fs : FileSystem) (l : Location) : Option Entry := if l = [] then some .directory else fs.entries[l]?

/-- There is a directory at a location. -/
def isDirectoryAt (fs : FileSystem) (l : Location) : Bool := fs.get? l = some .directory

@[simp] theorem get?_root (fs : FileSystem) : fs.get? [] = some .directory := by simp [get?]

theorem get?_eq_entries {fs : FileSystem} {l : Location} (h : l ≠ []) : fs.get? l = fs.entries[l]? := by simp [get?, h]

/-- Above whatever has a location there is a directory. -/
theorem get?_above {fs : FileSystem} {l : Location} {n : Name} (h : fs.get? (l ++ [n]) ≠ none) :
    fs.get? l = some .directory := by
  rw [get?_eq_entries (by simp)] at h
  rcases fs.above_isDirectory l n h with rfl | hd
  · simp
  · simp only [get?]
    split <;> simp_all

/-- Whatever has a location has a name that fits. -/
theorem fits_of_get? {fs : FileSystem} {l : Location} {n : Name} (h : fs.get? (l ++ [n]) ≠ none) : n.fits = true := by
  rw [get?_eq_entries (by simp)] at h
  exact fs.fits_of_entry l n h

/-- File systems with the same entries, and the program at the same location, are the same. -/
theorem ext {a b : FileSystem} (hs : a.standing = b.standing) (h : ∀ l, a.get? l = b.get? l) : a = b := by
  have : a.entries = b.entries := Std.ExtTreeMap.ext_getElem? fun l => by
    by_cases hl : l = []
    · rw [hl, a.root_not_mem, b.root_not_mem]
    · rw [← get?_eq_entries hl, ← get?_eq_entries hl, h]
  cases a; cases b; simp_all

/-! ## Setting one location -/

/-- A location at which an entry can be set: below a directory, under a name that fits, where nothing stands but perhaps a file
or a link. -/
def isFree (fs : FileSystem) (l : Location) : Bool :=
  l.getLast?.any Name.fits && fs.isDirectoryAt l.dropLast && !fs.isDirectoryAt l

theorem isFree_iff {fs : FileSystem} {l : Location} {n : Name} :
    fs.isFree (l ++ [n]) = true ↔
      n.fits = true ∧ fs.get? l = some .directory ∧ fs.get? (l ++ [n]) ≠ some .directory := by
  simp [isFree, isDirectoryAt, and_assoc]

theorem exists_of_isFree {fs : FileSystem} {l : Location} (h : fs.isFree l = true) : ∃ m n, l = m ++ [n] := by
  rcases List.eq_nil_or_concat l with rfl | ⟨m, n, rfl⟩
  · simp [isFree] at h
  · exact ⟨m, n, List.concat_eq_append⟩

/-- Sets an entry at a free location. -/
def set (fs : FileSystem) (l : Location) (e : Entry) (h : fs.isFree l = true) : FileSystem where
  entries := fs.entries.insert l e
  standing := fs.standing
  root_not_mem := by
    obtain ⟨m, n, rfl⟩ := exists_of_isFree h
    rw [Std.ExtTreeMap.getElem?_insert, if_neg, fs.root_not_mem]
    rw [Std.compare_eq_iff_eq]
    simp
  above_isDirectory := by
    obtain ⟨k, j, rfl⟩ := exists_of_isFree h
    obtain ⟨-, hup, hno⟩ := isFree_iff.mp h
    rw [get?_eq_entries (by simp)] at hno
    intro m n hm
    rw [Std.ExtTreeMap.getElem?_insert] at hm ⊢
    simp only [Std.compare_eq_iff_eq] at hm ⊢
    by_cases hl : k ++ [j] = m ++ [n]
    · obtain ⟨rfl, -⟩ := List.append_inj' hl rfl
      simp only [get?] at hup
      split at hup
      · exact .inl ‹_›
      · exact .inr (by rw [if_neg (by simp)]; exact hup)
    · rw [if_neg hl] at hm
      rcases fs.above_isDirectory m n hm with rfl | hd
      · exact .inl rfl
      · refine .inr ?_
        rw [if_neg fun (heq : k ++ [j] = m) => hno (heq ▸ hd), hd]
  fits_of_entry := by
    obtain ⟨k, j, rfl⟩ := exists_of_isFree h
    intro m n hm
    rw [Std.ExtTreeMap.getElem?_insert] at hm
    simp only [Std.compare_eq_iff_eq] at hm
    by_cases hl : k ++ [j] = m ++ [n]
    · obtain ⟨-, hjn⟩ := List.append_inj' hl rfl
      obtain rfl : j = n := by simpa using hjn
      exact (isFree_iff.mp h).1
    · rw [if_neg hl] at hm
      exact fs.fits_of_entry m n hm

theorem get?_set {fs : FileSystem} {l : Location} {e : Entry} (h : fs.isFree l = true) (m : Location) :
    (fs.set l e h).get? m = if l = m then some e else fs.get? m := by
  have hne : l ≠ [] := by
    obtain ⟨k, n, rfl⟩ := exists_of_isFree h
    simp
  simp only [get?, set, Std.ExtTreeMap.getElem?_insert, Std.compare_eq_iff_eq]
  by_cases hm : m = []
  · rw [if_pos hm, if_pos hm, if_neg (by rintro rfl; exact hne hm)]
  · rw [if_neg hm, if_neg hm]

/-- Puts a file at a location, in place of a file or a link that stands there. -/
def putFile (fs : FileSystem) (l : Location) (content : ByteArray) : FileSystem :=
  if h : fs.isFree l = true then fs.set l (.file content) h else fs

/-- Puts a link at a location, in place of a file or a link that stands there. -/
def putLink (fs : FileSystem) (l : Location) (target : String) : FileSystem :=
  if h : fs.isFree l = true then fs.set l (.link target) h else fs

/-- Makes a directory at a location, in place of a file or a link that stands there. -/
def makeDirectory (fs : FileSystem) (l : Location) : FileSystem :=
  if h : fs.isFree l = true then fs.set l .directory h else fs

theorem get?_putFile {fs : FileSystem} {l : Location} (h : fs.isFree l = true) (content : ByteArray) (m : Location) :
    (fs.putFile l content).get? m = if l = m then some (.file content) else fs.get? m := by
  simp [putFile, h, get?_set]

theorem get?_putLink {fs : FileSystem} {l : Location} (h : fs.isFree l = true) (target : String) (m : Location) :
    (fs.putLink l target).get? m = if l = m then some (.link target) else fs.get? m := by
  simp [putLink, h, get?_set]

theorem get?_makeDirectory {fs : FileSystem} {l : Location} (h : fs.isFree l = true) (m : Location) :
    (fs.makeDirectory l).get? m = if l = m then some .directory else fs.get? m := by
  simp [makeDirectory, h, get?_set]

/-- The file system that holds nothing but the way to a location, where the program stands. -/
def startingAt (l : Location) : FileSystem :=
  { (List.range l.length).foldl (fun fs k => fs.makeDirectory (l.take (k + 1))) empty with standing := l }

theorem isFree_of_absent {fs : FileSystem} {l : Location} {n : Name} (hd : fs.get? l = some .directory)
    (hn : fs.get? (l ++ [n]) = none) (hfits : n.fits = true) : fs.isFree (l ++ [n]) = true :=
  isFree_iff.mpr ⟨hfits, hd, by simp [hn]⟩

theorem isFree_of_file {fs : FileSystem} {l : Location} {content : ByteArray} (h : fs.get? l = some (.file content)) :
    fs.isFree l = true := by
  have hne : l ≠ [] := by rintro rfl; simp at h
  obtain ⟨m, n, rfl⟩ := (List.eq_nil_or_concat l).resolve_left hne
  rw [List.concat_eq_append] at h ⊢
  have hsome : fs.get? (m ++ [n]) ≠ none := by simp [h]
  exact isFree_iff.mpr ⟨fits_of_get? hsome, get?_above hsome, by simp [h]⟩

/-! ## Clearing a location -/

/-- Removes what stands at a location and all below it. -/
def remove (fs : FileSystem) (l : Location) : FileSystem where
  entries := fs.entries.filter fun m _ => !decide (l <+: m)
  standing := fs.standing
  root_not_mem := by rw [Std.ExtTreeMap.getElem?_filter', fs.root_not_mem]; rfl
  above_isDirectory := by
    intro m n hm
    simp only [Std.ExtTreeMap.getElem?_filter'] at hm ⊢
    obtain ⟨e, he⟩ := Option.ne_none_iff_exists'.mp hm
    obtain ⟨he, hk⟩ := Option.filter_eq_some_iff.mp he
    rcases fs.above_isDirectory m n (by simp [he]) with rfl | hd
    · exact .inl rfl
    · refine .inr ?_
      rw [hd, Option.filter_some, if_pos]
      simp only [Bool.not_eq_true', decide_eq_false_iff_not] at hk ⊢
      exact fun hp => hk (hp.trans (List.prefix_append _ _))
  fits_of_entry := by
    intro m n hm
    simp only [Std.ExtTreeMap.getElem?_filter'] at hm
    obtain ⟨e, he⟩ := Option.ne_none_iff_exists'.mp hm
    obtain ⟨he, -⟩ := Option.filter_eq_some_iff.mp he
    exact fs.fits_of_entry m n (by simp [he])

theorem get?_remove {fs : FileSystem} {l : Location} (hl : l ≠ []) (m : Location) :
    (fs.remove l).get? m = if l <+: m then none else fs.get? m := by
  by_cases hm : m = []
  · subst hm
    rw [get?_root, get?_root, if_neg (by simpa using hl)]
  · rw [get?_eq_entries hm, get?_eq_entries hm, remove, Std.ExtTreeMap.getElem?_filter']
    by_cases hp : l <+: m <;> cases fs.entries[m]? <;> simp [Option.filter, hp]

/-- The entries in the order of their locations. -/
def toList (fs : FileSystem) : List (Location × Entry) := fs.entries.toList

/-- The entries below where the program stands, at their locations from there. -/
def below (fs : FileSystem) : List (Location × Entry) :=
  fs.toList.filterMap fun (l, e) =>
    if fs.standing <+: l ∧ l ≠ fs.standing then some (l.drop fs.standing.length, e) else none

end FileSystem

end ClassChain.Files

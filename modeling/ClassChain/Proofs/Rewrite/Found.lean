import ClassChain.Proofs.Files.Listing
import ClassChain.Rewrite.Tree

/-!
# The files of a tree

The files that a tree is rewritten from are found below a directory, each once and in the order of the paths (`Found`), unless a
directory stands too deep in it (`Bottomless`); then nothing is found and the search ends in an error (`findFiles_of_directory`).
Where no link stands the files found are those among the entries (`findFiles_of_entries`).
-/

namespace ClassChain.Rewrite

open Files (Path FileSystem Name Location)

variable {s : Settings} {fs : FileSystem} {dir : Path}

/-- The names found below a directory. -/
structure Found (s : Settings) (fs : FileSystem) (dir : Path) (found : List (List Name)) : Prop where
  eq : findFiles s fs dir = .ok found
  sorted : found.Pairwise fun a b => compare a b = .lt
  nodup : found.Nodup
  fits : ∀ names ∈ found, ∀ n ∈ names, n.fits = true
  kept : ∀ names ∈ found, ∀ n ∈ names.dropLast, n.text ∉ s.excludedDirs
  short : ∀ names ∈ found, names.length ≤ FileSystem.descentLimit + 1
  file : ∀ names ∈ found, ∃ inn, fs.resolve dir = .ok (.directory inn) ∧
    (fs.NoLinkBelow inn → ∃ content, fs.get? (inn ++ names) = some (.file content))

/-- A directory stands deeper below than a listing goes down, and the listing comes that far: no directory on the way is excluded,
and all can be opened. -/
def Bottomless (s : Settings) (fs : FileSystem) (dir : Path) : Prop :=
  ∃ inn names, fs.resolve dir = .ok (.directory inn) ∧ names.length = FileSystem.descentLimit + 1 ∧
    fs.get? (inn ++ names) = some .directory ∧ (∀ n ∈ names, n.text ∉ s.excludedDirs) ∧
      ¬ (dir.written.append names.dropLast).IsLong

/-- No directory is without a bottom where nothing stands that deep. -/
theorem not_bottomless_of_height (h : fs.height ≤ FileSystem.descentLimit) : ¬ Bottomless s fs dir := by
  rintro ⟨inn, names, -, hlength, hget, -⟩
  have hne : inn ++ names ≠ [] := by
    intro hnil
    rw [(List.append_eq_nil_iff.mp hnil).2] at hlength
    cases hlength
  rw [FileSystem.get?_eq_entries hne] at hget
  have hentry : (inn ++ names, Files.Entry.directory) ∈ fs.toList := Std.ExtTreeMap.mem_toList_iff_getElem?_eq_some.mpr hget
  have hheight : (inn ++ names).length ≤ fs.height := FileSystem.le_foldr_max (List.mem_map.mpr ⟨_, hentry, rfl⟩)
  rw [List.length_append] at hheight
  omega

/-- The directory is listed, unless it has no bottom. -/
theorem findFiles_of_directory {inn : Location} (hnull : dir.hasNull = false) (hdir : fs.resolve dir = .ok (.directory inn)) :
    (Bottomless s fs dir ↔
        fs.descends (fun n => s.excludedDirs.contains n.text) dir.written inn (FileSystem.descentLimit + 1) = true) ∧
      (Bottomless s fs dir → findFiles s fs dir = .error (.tooDeep .listing)) ∧
      (¬ Bottomless s fs dir →
        findFiles s fs dir = .ok (fs.filesBelow (fun n => s.excludedDirs.contains n.text) dir.written inn)) := by
  have hiff : Bottomless s fs dir ↔
      fs.descends (fun n => s.excludedDirs.contains n.text) dir.written inn (FileSystem.descentLimit + 1) = true := by
    rw [FileSystem.descends_iff (FileSystem.stands_of_resolve hdir)]
    simp only [List.contains_eq_mem, decide_eq_false_iff_not]
    constructor
    · rintro ⟨inn', names, hinn', hlength, hget, hkept, hshort⟩
      obtain rfl : inn = inn' := by simpa using hdir.symm.trans hinn'
      exact ⟨names, hlength, hget, hkept, Or.inr hshort⟩
    · rintro ⟨names, hlength, hget, hkept, hshort⟩
      exact ⟨inn, names, hdir, hlength, hget, hkept, hshort.resolve_left (by rintro rfl; cases hlength)⟩
  refine ⟨hiff, fun hdeep => ?_, fun hdeep => ?_⟩
  · unfold findFiles FileSystem.find
    rw [hnull, if_neg (by simp), hdir]
    exact if_pos (hiff.mp hdeep)
  · unfold findFiles FileSystem.find
    rw [hnull, if_neg (by simp), hdir]
    exact if_neg fun hdescends => hdeep (hiff.mpr hdescends)

theorem findFiles_of_bottomless (hnull : dir.hasNull = false) (h : Bottomless s fs dir) :
    findFiles s fs dir = .error (.tooDeep .listing) := by
  obtain ⟨inn, -, hinn, -⟩ := id h
  exact (findFiles_of_directory hnull hinn).2.1 h

theorem exists_found (hnull : dir.hasNull = false) (h : ¬ Bottomless s fs dir) : ∃ found, Found s fs dir found := by
  by_cases hdir : ∃ inn, fs.resolve dir = .ok (.directory inn)
  · obtain ⟨inn, hinn⟩ := hdir
    obtain ⟨hiff, -, hfound⟩ := findFiles_of_directory (s := s) hnull hinn
    refine ⟨_, hfound h, FileSystem.pairwise_filesBelow .., FileSystem.nodup_filesBelow ..,
      fun names hnames => FileSystem.fits_of_mem_filesBelow hnames, fun names hnames n hn => ?_,
      fun names hnames => ?_, fun names hnames => ⟨inn, hinn, fun hlink => ?_⟩⟩
    · simpa using FileSystem.not_leftOut_of_mem_filesBelow hnames n hn
    · exact FileSystem.length_of_mem_filesBelow (Bool.eq_false_iff.mpr (mt hiff.mpr h)) hnames
    · exact FileSystem.exists_file_of_mem_filesBelow hlink hnames
  · refine ⟨[], ?_, .nil, .nil, by simp, by simp, by simp, by simp⟩
    unfold findFiles FileSystem.find
    rw [hnull, if_neg (by simp)]
    split
    · rename_i inn hinn
      exact absurd ⟨inn, hinn⟩ hdir
    · rfl

/-- What is found is not below a directory without a bottom. -/
theorem not_bottomless_of_findFiles {found : List (List Name)} (hnull : dir.hasNull = false) (h : findFiles s fs dir = .ok found) :
    ¬ Bottomless s fs dir := by
  intro hdeep
  cases h.symm.trans (findFiles_of_bottomless hnull hdeep)

theorem found_of_findFiles {found : List (List Name)} (hnull : dir.hasNull = false) (h : findFiles s fs dir = .ok found) :
    Found s fs dir found := by
  obtain ⟨found', hfound⟩ := exists_found hnull (not_bottomless_of_findFiles hnull h)
  obtain rfl : found = found' := Except.ok.inj (h.symm.trans hfound.eq)
  exact hfound

/-- Where no link stands and nothing stands too deep, the files found are read off the entries. -/
theorem findFiles_of_entries {inn : Location} {found : List (List Name)} (hnull : dir.hasNull = false)
    (hdir : fs.resolve dir = .ok (.directory inn)) (hlink : fs.NoLinkBelow inn) (hheight : fs.height ≤ FileSystem.descentLimit)
    (hsorted : found.Pairwise fun a b => compare a b = .lt)
    (hfound : ∀ names ∈ found, fs.get? (inn ++ names) ≠ none ∧ fs.get? (inn ++ names) ≠ some .directory ∧
      (∀ n ∈ names.dropLast, n.text ∉ s.excludedDirs) ∧ ¬ (dir.written.append names.dropLast).IsLong)
    (hall : ∀ entry ∈ fs.toList, inn <+: entry.1 → entry.2 ≠ .directory → entry.1.drop inn.length ∈ found) :
    findFiles s fs dir = .ok found := by
  rw [(findFiles_of_directory hnull hdir).2.2 (not_bottomless_of_height hheight)]
  congr 1
  have hstands : fs.get? inn = some .directory := FileSystem.stands_of_resolve hdir
  have hmem : ∀ names, names ∈ fs.filesBelow (fun n => s.excludedDirs.contains n.text) dir.written inn ↔ names ∈ found := by
    intro names
    constructor
    · intro hnames
      obtain ⟨content, hfile⟩ := FileSystem.exists_file_of_mem_filesBelow hlink hnames
      have hne : inn ++ names ≠ [] := by
        intro hnil
        rw [hnil, FileSystem.get?_root] at hfile
        cases hfile
      rw [FileSystem.get?_eq_entries hne] at hfile
      have hentry : (inn ++ names, Files.Entry.file content) ∈ fs.toList :=
        Std.ExtTreeMap.mem_toList_iff_getElem?_eq_some.mpr hfile
      simpa using hall _ hentry (List.prefix_append inn names) (by simp)
    · intro hnames
      obtain ⟨hnone, hno, hkept, hshort⟩ := hfound names hnames
      refine FileSystem.mem_filesBelow_iff.mpr ⟨?_, Or.inl ?_, fun n hn => by simpa using hkept n hn, hshort⟩
      · rintro rfl
        rw [List.append_nil] at hno
        exact hno hstands
      · obtain ⟨e, he⟩ := Option.ne_none_iff_exists'.mp hnone
        cases e with
        | file content => exact ⟨content, he⟩
        | link target => exact absurd he (hlink names target)
        | directory => exact absurd he hno
  have hnodup : found.Nodup := hsorted.imp fun {a b} hlt heq => by
    rw [heq, Std.ReflOrd.compare_self] at hlt
    cases hlt
  have hperm := (List.perm_ext_iff_of_nodup (FileSystem.nodup_filesBelow ..) hnodup).mpr hmem
  have hasymm : ∀ a b : List Name, compare a b = .lt → compare b a = .lt → a = b := fun a b hlt hgt =>
    absurd hgt (Std.OrientedCmp.not_lt_of_lt hlt)
  exact hperm.eq_of_pairwise (fun a b _ _ => hasymm a b) (FileSystem.pairwise_filesBelow ..) hsorted

end ClassChain.Rewrite

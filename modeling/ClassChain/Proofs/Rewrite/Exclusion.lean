import ClassChain.Proofs.Hook.Directory
import ClassChain.Proofs.Rewrite.Mirror

/-!
# What is found and what is excluded

Whether a directory is excluded is asked twice: the search for files passes over it by its name, and the hook cuts the path of a file
and looks for the name in it. Below a path with no excluded name, and where no name is cut by a backslash, both ask the same of a
file (`Hook.excludes_append_iff`). So the search finds just the leaves that the hook does not exclude, in the order of their paths
(`found_iff_not_excluded`).

There are two exceptions. A directory whose path is too long cannot be opened, and what it holds is not found although nothing excludes
it (`below_long_path_not_found`). And nothing is found at all where directories stand too deep.
-/

namespace ClassChain.Rewrite

open Files (Path FileSystem Name Location Step)

variable {s : Settings} {fs : FileSystem} {dir : Path} {inn : Location}

/-- What is found below a directory, in the order of the paths and each path once, are the leaves below it, files and links that lead
to no directory, that the hook does not exclude; those alone are missing that stand in a directory whose path is too long to be
opened. Where directories stand too deep the search ends in an error. -/
theorem found_iff_not_excluded (hnull : dir.hasNull = false) (hdir : fs.resolve dir = .ok (.directory inn))
    (hplain : ∀ names, fs.get? (inn ++ names) ≠ none → ∀ n ∈ names, '\\' ∉ n.text.toList)
    (hkept : ∀ segment ∈ Hook.segments dir.text, segment ∉ s.excludedDirs) :
    (Bottomless s fs dir ∧ findFiles s fs dir = .error (.tooDeep .listing)) ∨
    ∃ found, findFiles s fs dir = .ok found ∧ (found.Pairwise fun a b => (dir.append a).parts < (dir.append b).parts) ∧
      found.Nodup ∧
      ∀ names, names ∈ found ↔
        fs.IsLeaf (dir.written.append names) (inn ++ names) ∧ s.excludes (dir.append names).text = false ∧
          ¬ (dir.written.append names.dropLast).IsLong := by
  have hstands : fs.get? inn = some .directory := FileSystem.stands_of_resolve hdir
  by_cases hdeep : Bottomless s fs dir
  · exact Or.inl ⟨hdeep, findFiles_of_bottomless hnull hdeep⟩
  refine Or.inr ⟨_, (findFiles_of_directory hnull hdir).2.2 hdeep, ?_, FileSystem.nodup_filesBelow .., fun names => ?_⟩
  · exact (FileSystem.pairwise_filesBelow ..).imp fun hlt => Path.parts_append_lt dir hlt
  · rw [FileSystem.mem_filesBelow_iff]
    have hne (hleaf : fs.IsLeaf (dir.written.append names) (inn ++ names)) : names ≠ [] := by
      rintro rfl
      rw [List.append_nil] at hleaf
      simp [FileSystem.IsLeaf, hstands] at hleaf
    have hexcludes (hleaf : fs.IsLeaf (dir.written.append names) (inn ++ names)) :
        (∀ n ∈ names.dropLast, s.excludedDirs.contains n.text = false) ↔ s.excludes (dir.append names).text = false := by
      rw [Hook.excludes_append_iff s hkept (hne hleaf) (hplain names hleaf.stands)]
      simp
    constructor
    · rintro ⟨-, hleaf, hlefts, hshort⟩
      exact ⟨hleaf, (hexcludes hleaf).mp hlefts, hshort⟩
    · rintro ⟨hleaf, hexcluded, hshort⟩
      exact ⟨hne hleaf, hleaf, (hexcludes hleaf).mpr hexcluded, hshort⟩

namespace Sample

/-- A directory that is excluded unless the settings say otherwise. -/
def excluded : Name := ⟨"node_modules", by decide⟩

/-- A directory in a directory. -/
def inner : Name := ⟨"inner", by decide⟩

/-- A directory with a file, an excluded directory with a file in it, and a file that has the name of an excluded directory. -/
def wooded : FileSystem :=
  (((((FileSystem.empty.makeDirectory [input]).putFile [input, first] (Text.Utf8.encode "h:x|y")).makeDirectory
    [input, excluded]).putFile [input, excluded, first] (Text.Utf8.encode "z")).makeDirectory [input, inner]).putFile
    [input, inner, excluded] (Text.Utf8.encode "z")

theorem resolve_wooded : wooded.resolve inputPath = .ok (.directory [input]) := resolve_inputPath rfl (by decide)

/-- Names without a backslash are known from the entries. -/
theorem plain_of_toList (hall : (fs.toList.all fun entry => entry.1.all fun n => !n.text.toList.contains '\\') = true)
    (names : List Name) (hstands : fs.get? (inn ++ names) ≠ none) : ∀ n ∈ names, '\\' ∉ n.text.toList := by
  intro n hn
  have hmem : n ∈ inn ++ names := List.mem_append_right inn hn
  rw [FileSystem.get?_eq_entries (List.ne_nil_of_mem hmem)] at hstands
  obtain ⟨e, he⟩ := Option.ne_none_iff_exists'.mp hstands
  have hentry : (inn ++ names, e) ∈ fs.toList := Std.ExtTreeMap.mem_toList_iff_getElem?_eq_some.mpr he
  have hplain := List.all_eq_true.mp (List.all_eq_true.mp hall _ hentry) n hmem
  simpa using hplain

end Sample

theorem found_iff_not_excluded_wooded :
    (Sample.inputPath.hasNull = false ∧ Sample.wooded.resolve Sample.inputPath = .ok (.directory [Sample.input]) ∧
      (∀ names, Sample.wooded.get? ([Sample.input] ++ names) ≠ none → ∀ n ∈ names, '\\' ∉ n.text.toList) ∧
      ∀ segment ∈ Hook.segments Sample.inputPath.text, segment ∉ ({} : Settings).excludedDirs) ∧
    ∃ found, findFiles {} Sample.wooded Sample.inputPath = .ok found ∧ [Sample.inner, Sample.excluded] ∈ found ∧
      [Sample.excluded, Sample.first] ∉ found := by
  have hnull : Sample.inputPath.hasNull = false := by decide
  have hdir := Sample.resolve_wooded
  have hplain : ∀ names, Sample.wooded.get? ([Sample.input] ++ names) ≠ none → ∀ n ∈ names, '\\' ∉ n.text.toList :=
    Sample.plain_of_toList (by decide)
  have hkept : ∀ segment ∈ Hook.segments Sample.inputPath.text, segment ∉ ({} : Settings).excludedDirs := by decide
  have hbottom : ¬ Bottomless {} Sample.wooded Sample.inputPath := not_bottomless_of_height (by decide)
  obtain ⟨found, hfound, -, -, hiff⟩ := (found_iff_not_excluded hnull hdir hplain hkept).resolve_left fun h => hbottom h.1
  refine ⟨⟨hnull, hdir, hplain, hkept⟩, found, hfound, (hiff _).mpr ⟨?_, by decide, by decide⟩, fun hmem => ?_⟩
  · have hfile : Sample.wooded.get? ([Sample.input] ++ [Sample.inner, Sample.excluded]) =
        some (.file (Text.Utf8.encode "z")) := by decide
    exact Or.inl ⟨_, hfile⟩
  · have hexcluded : ({} : Settings).excludes (Sample.inputPath.append [Sample.excluded, Sample.first]).text = true := by decide
    have hnot := ((hiff _).mp hmem).2.1
    rw [hexcluded] at hnot
    cases hnot

namespace Sample

/-- A file in a directory in the directory for the output. -/
def deep : FileSystem := (files.makeDirectory [output, inner]).putFile [output, inner, first] (Text.Utf8.encode "z")

theorem resolve_deep : deep.resolve (roundPath 818) = .ok (.directory [output]) :=
  resolve_roundPath (by decide) (by decide) (Nat.le_refl 818)

/-- No segment of the paths that go in and out is excluded. -/
theorem kept_roundPath (k : Nat) : ∀ segment ∈ Hook.segments (roundPath k).text, segment ∉ ({} : Settings).excludedDirs := by
  have hsegments : Hook.segments (roundPath k).text = (roundPath k).steps.map Step.text := by
    rw [Path.text_of_steps (steps_roundPath_ne_nil k)]
    have hanchor : (roundPath k).anchor.text = "" := rfl
    rw [hanchor, String.empty_append]
    refine Hook.segments_intercalate (by simpa using steps_roundPath_ne_nil k) ?_
    intro part hpart
    obtain ⟨step, hstep, rfl⟩ := List.mem_map.mp hpart
    rcases step_of_mem_roundPath hstep with rfl | rfl
    · exact Hook.not_isPathSeparator_of_mem_name (by decide)
    · simp [Step.text, Hook.isPathSeparator]
  rw [hsegments]
  intro segment hsegment
  obtain ⟨step, hstep, rfl⟩ := List.mem_map.mp hsegment
  rcases step_of_mem_roundPath hstep with rfl | rfl <;> decide

theorem written_roundPath (k : Nat) : (roundPath k).written = roundPath k := by
  have hne : roundPath k ≠ ⟨.standing, []⟩ := fun heq => steps_roundPath_ne_nil k (congrArg Path.steps heq)
  rw [Path.written, Path.writtenSteps, if_neg hne]

/-- The directory in the directory cannot be opened by the longest of the paths. -/
theorem isLong_inner : ((roundPath 818).append [inner]).IsLong := by
  have hname : inner.text.utf8ByteSize = 5 := by decide
  rw [Path.IsLong, Path.utf8ByteSize_append_singleton (steps_roundPath_ne_nil 818), size_roundPath, hname, Files.pathLimit]
  omega

end Sample

/-- A file that nothing excludes is not found in a directory whose path is too long. -/
theorem below_long_path_not_found :
    ((Sample.roundPath 818).hasNull = false ∧ Sample.deep.resolve (Sample.roundPath 818) = .ok (.directory [Sample.output]) ∧
      (∀ names, Sample.deep.get? ([Sample.output] ++ names) ≠ none → ∀ n ∈ names, '\\' ∉ n.text.toList) ∧
      ∀ segment ∈ Hook.segments (Sample.roundPath 818).text, segment ∉ ({} : Settings).excludedDirs) ∧
    (∃ content, Sample.deep.get? ([Sample.output] ++ [Sample.inner, Sample.first]) = some (.file content)) ∧
      ({} : Settings).excludes ((Sample.roundPath 818).append [Sample.inner, Sample.first]).text = false ∧
      ∃ found, findFiles {} Sample.deep (Sample.roundPath 818) = .ok found ∧ [Sample.inner, Sample.first] ∉ found := by
  have hfile : Sample.deep.get? ([Sample.output] ++ [Sample.inner, Sample.first]) = some (.file (Text.Utf8.encode "z")) := by
    decide
  have hplain : ∀ names, Sample.deep.get? ([Sample.output] ++ names) ≠ none → ∀ n ∈ names, '\\' ∉ n.text.toList :=
    Sample.plain_of_toList (by decide)
  refine ⟨⟨Sample.hasNull_roundPath 818, Sample.resolve_deep, hplain, Sample.kept_roundPath 818⟩, ⟨_, hfile⟩, ?_, _,
    (findFiles_of_directory (Sample.hasNull_roundPath 818) Sample.resolve_deep).2.2 (not_bottomless_of_height (by decide)), ?_⟩
  · refine (Hook.excludes_append_iff {} (Sample.kept_roundPath 818) (by simp) (by decide)).mpr ?_
    decide
  · intro hmem
    obtain ⟨-, -, -, hshort⟩ := FileSystem.mem_filesBelow_iff.mp hmem
    rw [Sample.written_roundPath] at hshort
    exact hshort Sample.isLong_inner

end ClassChain.Rewrite

import ClassChain.Hook
import ClassChain.Proofs.Files.Path

/-!
# The directories of an id

An id is cut at separators of either kind, and the last of its `segments` is the name of the file. When the id is the path of a file
that is reached from a directory by names, these names are its last segments and those before them are segments of the path of the
directory (`exists_segments_append`): names have no slash, and if they have no backslash either none of them is cut. So whether the
file is excluded is told by the names of the directories that lead to it from there (`excludes_append_iff`).
-/

namespace ClassChain.Hook

open Files (Path Name Step Anchor)

/-- What stands between the separators of an id, the name of the file included. -/
def segments (id : String) : List String := (Text.splitWhere isPathSeparator id.toList).map String.ofList

theorem directories_eq (id : String) : directories id = (segments id).dropLast := rfl

theorem segments_append_slash (front back : String) : segments (front ++ "/" ++ back) = segments front ++ segments back := by
  have hslash : isPathSeparator '/' = true := rfl
  have hcut := Text.splitWhere_append_cons hslash front.toList back.toList
  have hlist : (front ++ "/" ++ back).toList = front.toList ++ '/' :: back.toList := by simp
  rw [segments, hlist, hcut, List.map_append]
  rfl

theorem segments_of_plain {text : String} (h : ∀ c ∈ text.toList, isPathSeparator c = false) : segments text = [text] := by
  rw [segments, Text.splitWhere_of_none h, List.map_singleton, String.ofList_toList]

/-- Parts that hold no separators are the segments of what they are joined to. -/
theorem segments_intercalate {parts : List String} (hne : parts ≠ [])
    (h : ∀ part ∈ parts, ∀ c ∈ part.toList, isPathSeparator c = false) : segments ("/".intercalate parts) = parts := by
  induction parts with
  | nil => exact absurd rfl hne
  | cons part parts ih =>
    obtain ⟨hpart, hparts⟩ := List.forall_mem_cons.mp h
    cases parts with
    | nil => rw [String.intercalate_singleton, segments_of_plain hpart]
    | cons next parts =>
      rw [String.intercalate_cons_cons, segments_append_slash, segments_of_plain hpart, ih (by simp) hparts]
      rfl

/-- A name without a backslash is one segment. -/
theorem not_isPathSeparator_of_mem_name {n : Name} (h : '\\' ∉ n.text.toList) : ∀ c ∈ n.text.toList, isPathSeparator c = false := by
  intro c hc
  have hslash : '/' ∉ n.text.toList := by
    have hname := n.isName_text
    simp only [Files.isName, Bool.and_eq_true, Bool.not_eq_true', List.contains_eq_mem, decide_eq_false_iff_not] at hname
    exact hname.2
  have hne : c ≠ '/' ∧ c ≠ '\\' := ⟨ne_of_mem_of_not_mem hc hslash, ne_of_mem_of_not_mem hc h⟩
  simp [isPathSeparator, hne]

variable {dir : Path} {names : List Name}

/-- What is written before the names when a path goes on through names: the path and a slash, unless it ends in one or has no steps. -/
def front (dir : Path) : String := if dir.steps = [] then dir.anchor.text else dir.text ++ "/"

theorem text_append (hne : names ≠ []) : (dir.append names).text = front dir ++ "/".intercalate (names.map (·.text)) := by
  have hsteps : (dir.append names).steps ≠ [] := by simp [Path.append, hne]
  have htexts : (names.map Step.into).map Step.text = names.map (·.text) := List.map_map
  have hwritten : (dir.append names).text =
      dir.anchor.text ++ "/".intercalate (dir.steps.map Step.text ++ names.map (·.text)) := by
    rw [Path.text_of_steps hsteps, ← htexts, ← List.map_append]
    rfl
  rw [hwritten, front]
  by_cases hnil : dir.steps = []
  · rw [if_pos hnil, hnil, List.map_nil, List.nil_append]
  · rw [if_neg hnil, Path.text_of_steps hnil, String.intercalate_append_of_ne_nil (by simpa using hnil) (by simpa using hne)]
    simp only [String.append_assoc]

/-- What is written before the names holds no segments but those of the path. -/
theorem exists_segments_front (dir : Path) (rest : String) :
    ∃ before, before ⊆ segments dir.text ∧ segments (front dir ++ rest) = before ++ segments rest := by
  by_cases hnil : dir.steps = []
  · obtain ⟨anchor, steps⟩ := dir
    obtain rfl : steps = [] := hnil
    cases anchor with
    | standing => exact ⟨[], by simp, by simp [front, Anchor.text]⟩
    | root =>
      have hsegments : segments (⟨.root, []⟩ : Path).text = ["", ""] := by decide
      exact ⟨[""], by simp [hsegments], segments_append_slash "" rest⟩
    | doubleRoot =>
      have hsegments : segments (⟨.doubleRoot, []⟩ : Path).text = ["", "", ""] := by decide
      exact ⟨["", ""], by simp [hsegments], segments_append_slash "/" rest⟩
  · refine ⟨segments dir.text, List.Subset.refl _, ?_⟩
    rw [front, if_neg hnil, segments_append_slash]

/-- When a path goes on through names without a backslash, the names are the last segments, and those before them are segments of
the path. -/
theorem exists_segments_append (dir : Path) (hne : names ≠ []) (hplain : ∀ n ∈ names, '\\' ∉ n.text.toList) :
    ∃ before, before ⊆ segments dir.text ∧ segments (dir.append names).text = before ++ names.map (·.text) := by
  obtain ⟨before, hsub, hsegments⟩ := exists_segments_front dir ("/".intercalate (names.map (·.text)))
  refine ⟨before, hsub, ?_⟩
  rw [text_append hne, hsegments, segments_intercalate (by simpa using hne)]
  intro part hpart
  obtain ⟨n, hn, rfl⟩ := List.mem_map.mp hpart
  exact not_isPathSeparator_of_mem_name (hplain n hn)

/-- Below a path with no excluded segment, a path is excluded exactly when a directory that it leads through from there is. -/
theorem excludes_append_iff (s : Settings) (hdir : ∀ segment ∈ segments dir.text, segment ∉ s.excludedDirs) (hne : names ≠ [])
    (hplain : ∀ n ∈ names, '\\' ∉ n.text.toList) :
    s.excludes (dir.append names).text = false ↔ ∀ n ∈ names.dropLast, n.text ∉ s.excludedDirs := by
  obtain ⟨before, hsub, hsegments⟩ := exists_segments_append dir hne hplain
  have hdirectories : directories (dir.append names).text = before ++ (names.map (·.text)).dropLast := by
    rw [directories_eq, hsegments, List.dropLast_append_of_ne_nil (by simpa using hne)]
  rw [Settings.excludes, hdirectories, List.any_eq_false, ← List.map_dropLast]
  constructor
  · intro h n hn
    simpa using h n.text (List.mem_append_right _ (List.mem_map_of_mem hn))
  · intro h segment hsegment
    rcases List.mem_append.mp hsegment with hbefore | hname
    · simpa using hdir segment (hsub hbefore)
    · obtain ⟨n, hn, rfl⟩ := List.mem_map.mp hname
      simpa using h n hn

end ClassChain.Hook

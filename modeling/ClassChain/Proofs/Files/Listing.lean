import Mathlib.Data.List.Nodup
import ClassChain.Files.Listing
import ClassChain.Proofs.Files.Change
import ClassChain.Proofs.Files.Way

/-!
# What a listing finds

A listing of a directory names the leaves below it, which are files and the links that lead to no directory, but none below a
directory left out or below one that cannot be opened (`mem_filesBelow_iff`). It names them in the order of the paths
(`pairwise_filesBelow`), so nothing twice. Where no link stands below the directory files are listed and nothing else
(`exists_file_of_mem_filesBelow`). A listing comes as far down as there are directories that are not left out and can be opened
(`descends_iff`), and what it names is one level below at most (`length_of_mem_filesBelow`).
-/

namespace ClassChain.Files.FileSystem

variable {fs : FileSystem} {leftOut : Name → Bool} {path : Path} {dir : Location} {names : List Name}

/-- No link stands at a location or below it. -/
def NoLinkBelow (fs : FileSystem) (l : Location) : Prop := ∀ names t, fs.get? (l ++ names) ≠ some (.link t)

theorem NoLinkBelow.of_root (h : fs.NoLinkBelow []) (l : Location) : fs.NoLinkBelow l := fun names t => h (l ++ names) t

theorem noLinkBelow_empty (l : Location) : FileSystem.empty.NoLinkBelow l := by
  intro names t
  by_cases hroot : l ++ names = []
  · rw [hroot, get?_root]
    simp
  · rw [get?_eq_entries hroot]
    simp [FileSystem.empty]

theorem NoLinkBelow.makeDirectory (h : fs.NoLinkBelow dir) (l : Location) : (fs.makeDirectory l).NoLinkBelow dir := by
  intro names t
  rcases get?_makeDirectory_cases fs l (dir ++ names) with hsame | ⟨-, hmade⟩
  · rw [hsame]
    exact h names t
  · rw [hmade]
    simp

theorem NoLinkBelow.putFile (h : fs.NoLinkBelow dir) (l : Location) (content : ByteArray) :
    (fs.putFile l content).NoLinkBelow dir := by
  intro names t
  rcases get?_putFile_cases fs l (dir ++ names) content with hsame | ⟨-, hput⟩
  · rw [hsame]
    exact h names t
  · rw [hput]
    simp

/-- What stands directly in a directory is what stands there under a name. -/
theorem mem_children_iff {n : Name} {e : Entry} : (n, e) ∈ fs.children dir ↔ fs.get? (dir ++ [n]) = some e := by
  rw [get?_eq_entries (by simp), ← Std.ExtTreeMap.mem_toList_iff_getElem?_eq_some]
  constructor
  · intro h
    exact mem_toList_of_mem_children h
  · intro h
    exact List.mem_filterMap.mpr ⟨(dir ++ [n], e), h, by simp⟩

/-- Lists of names are in the order of the first names that are different. -/
theorem compare_cons (n k : Name) (a b : List Name) : compare (n :: a) (k :: b) = (compare n k).then (compare a b) :=
  List.compareLex_cons_cons

theorem compare_append_left (front back back' : List Name) :
    compare (front ++ back) (front ++ back') = compare back back' := by
  induction front with
  | nil => rfl
  | cons n front ih =>
    rw [List.cons_append, List.cons_append, compare_cons, Std.ReflOrd.compare_self]
    exact ih

/-- What stands in a directory is listed in the order of the names. -/
theorem pairwise_children (fs : FileSystem) (dir : Location) :
    (fs.children dir).Pairwise fun a b => compare a.1 b.1 = .lt := by
  have hordered : fs.toList.Pairwise fun a b => compare a.1 b.1 = .lt := Std.ExtTreeMap.ordered_keys_toList
  refine hordered.filterMap _ ?_
  rintro ⟨l, e⟩ ⟨m, f⟩ hlt ⟨n, g⟩ hl ⟨k, h⟩ hm
  rcases List.eq_nil_or_concat l with rfl | ⟨l, n₁, rfl⟩
  · simp at hl
  rcases List.eq_nil_or_concat m with rfl | ⟨m, n₂, rfl⟩
  · simp at hm
  simp only [List.concat_eq_append, List.getLast?_concat, List.dropLast_concat, Option.ite_none_right_eq_some, Option.some.injEq,
    Prod.mk.injEq] at hl hm
  obtain ⟨rfl, rfl, rfl⟩ := hl
  obtain ⟨rfl, rfl, rfl⟩ := hm
  rw [List.concat_eq_append, List.concat_eq_append, compare_append_left, compare_cons] at hlt
  simpa [Ordering.then_eq_lt] using hlt

/-! ## What is found -/

/-- What a listing names at a location: a file, or a link by which the path leads to no directory. -/
def IsLeaf (fs : FileSystem) (path : Path) (l : Location) : Prop :=
  (∃ content, fs.get? l = some (.file content)) ∨ (∃ t, fs.get? l = some (.link t)) ∧ fs.isDirectory path = false

theorem IsLeaf.stands {l : Location} (h : fs.IsLeaf path l) : fs.get? l ≠ none := by
  rcases h with ⟨content, hfile⟩ | ⟨⟨t, hlink⟩, -⟩
  · simp [hfile]
  · simp [hlink]

/-- A listing goes through a directory name by name, if the directory can be opened. -/
theorem cons_mem_filesBelow_iff {n : Name} {rest : List Name} :
    n :: rest ∈ fs.filesBelow leftOut path dir ↔
      ¬ path.IsLong ∧ (rest = [] ∧ fs.IsLeaf (path.append [n]) (dir ++ [n]) ∨
        fs.get? (dir ++ [n]) = some .directory ∧ leftOut n = false ∧
          rest ∈ fs.filesBelow leftOut (path.append [n]) (dir ++ [n])) := by
  rw [filesBelow]
  split
  · rename_i hlong
    simp [hlong]
  rename_i hlong
  rw [and_iff_right hlong]
  constructor
  · intro h
    obtain ⟨⟨⟨k, e⟩, hchild⟩, -, h⟩ := List.mem_flatMap.mp h
    have hget := mem_children_iff.mp hchild
    cases e with
    | file content =>
      obtain ⟨rfl, rfl⟩ : n = k ∧ rest = [] := by simpa using h
      exact Or.inl ⟨rfl, Or.inl ⟨content, hget⟩⟩
    | link t =>
      dsimp only at h
      split at h
      · simp at h
      · rename_i hdirectory
        obtain ⟨rfl, rfl⟩ : n = k ∧ rest = [] := by simpa using h
        exact Or.inl ⟨rfl, Or.inr ⟨⟨t, hget⟩, by simpa using hdirectory⟩⟩
    | directory =>
      dsimp only at h
      split at h
      · simp at h
      · rename_i hleft
        obtain ⟨rest', hrest, heq⟩ := List.mem_map.mp h
        cases heq
        exact Or.inr ⟨hget, by simpa using hleft, hrest⟩
  · intro h
    rw [List.mem_flatMap]
    rcases h with ⟨rfl, ⟨content, hget⟩ | ⟨⟨t, hget⟩, hdirectory⟩⟩ | ⟨hget, hleft, hrest⟩
    · exact ⟨⟨_, mem_children_iff.mpr hget⟩, List.mem_attach .., by simp⟩
    · exact ⟨⟨_, mem_children_iff.mpr hget⟩, List.mem_attach .., by simp [hdirectory]⟩
    · exact ⟨⟨_, mem_children_iff.mpr hget⟩, List.mem_attach .., by simp [hleft, hrest]⟩

theorem nil_not_mem_filesBelow : [] ∉ fs.filesBelow leftOut path dir := by
  intro h
  rw [filesBelow] at h
  split at h
  · simp at h
  · obtain ⟨⟨⟨k, e⟩, hchild⟩, -, h⟩ := List.mem_flatMap.mp h
    cases e with
    | file content => simp at h
    | link t | directory =>
      dsimp only at h
      split at h <;> simp at h

/-- What is found below a directory are the leaves below it: all of them but those under a directory that is left out, and those in
a directory that cannot be opened for too long a path. -/
theorem mem_filesBelow_iff :
    names ∈ fs.filesBelow leftOut path dir ↔
      names ≠ [] ∧ fs.IsLeaf (path.append names) (dir ++ names) ∧ (∀ n ∈ names.dropLast, leftOut n = false) ∧
        ¬ (path.append names.dropLast).IsLong := by
  induction names generalizing path dir with
  | nil => exact iff_of_false nil_not_mem_filesBelow (by simp)
  | cons n rest ih =>
    rw [cons_mem_filesBelow_iff, ih]
    by_cases hrest : rest = []
    · subst hrest
      simp [and_comm]
    have hpath : ∀ more, path.append (n :: more) = (path.append [n]).append more := fun more => by simp [Path.append]
    rw [List.dropLast_cons_of_ne_nil hrest, hpath rest, hpath rest.dropLast, List.forall_mem_cons, List.append_cons dir n rest]
    constructor
    · rintro ⟨-, ⟨hnil, -⟩ | ⟨-, hleft, -, hleaf, hlefts, hlong⟩⟩
      · exact absurd hnil hrest
      · exact ⟨by simp, hleaf, ⟨hleft, hlefts⟩, hlong⟩
    · rintro ⟨-, hleaf, ⟨hleft, hlefts⟩, hlong⟩
      have hdir := get?_of_stands_below hleaf.stands hrest
      refine ⟨fun hpathLong => hlong ?_, Or.inr ⟨hdir, hleft, hrest, hleaf, hlefts, hlong⟩⟩
      have hhere : (path.append []).IsLong := by rwa [Path.append_nil]
      rw [← hpath]
      exact Path.isLong_append (n :: rest.dropLast) hhere

/-- Where no link stands below the directory, the names found lead to files. -/
theorem exists_file_of_mem_filesBelow (hlink : fs.NoLinkBelow dir) (h : names ∈ fs.filesBelow leftOut path dir) :
    ∃ content, fs.get? (dir ++ names) = some (.file content) := by
  rcases (mem_filesBelow_iff.mp h).2.1 with hfile | ⟨⟨t, ht⟩, -⟩
  · exact hfile
  · exact absurd ht (hlink names t)

/-- Nothing is found under a directory that is left out. -/
theorem not_leftOut_of_mem_filesBelow (h : names ∈ fs.filesBelow leftOut path dir) : ∀ n ∈ names.dropLast, leftOut n = false :=
  (mem_filesBelow_iff.mp h).2.2.1

/-- The names found fit. -/
theorem fits_of_mem_filesBelow (h : names ∈ fs.filesBelow leftOut path dir) : ∀ n ∈ names, n.fits = true :=
  fits_of_mem (mem_filesBelow_iff.mp h).2.1.stands

/-- Listings that begin with one name each are in order one after another when these names are. -/
theorem pairwise_flatMap_of_head {α : Type} {xs : List α} {f : α → List (List Name)} (head : α → Name)
    (hxs : xs.Pairwise fun x y => compare (head x) (head y) = .lt)
    (hf : ∀ x ∈ xs, (f x).Pairwise fun a b => compare a b = .lt)
    (hhead : ∀ x, ∀ names ∈ f x, ∃ rest, names = head x :: rest) :
    (xs.flatMap f).Pairwise fun a b => compare a b = .lt := by
  rw [List.pairwise_flatMap]
  refine ⟨hf, hxs.imp fun {x y} hlt a ha b hb => ?_⟩
  obtain ⟨a, rfl⟩ := hhead x a ha
  obtain ⟨b, rfl⟩ := hhead y b hb
  rw [compare_cons, hlt]
  rfl

/-- What is found comes in the order of the paths. -/
theorem pairwise_filesBelow (fs : FileSystem) (leftOut : Name → Bool) (path : Path) (dir : Location) :
    (fs.filesBelow leftOut path dir).Pairwise fun a b => compare a b = .lt := by
  fun_induction filesBelow fs leftOut path dir with
  | case1 => simp
  | case2 path dir hlong ih =>
    refine pairwise_flatMap_of_head (fun child => child.1.1) ?_ ?_ ?_
    · have hchildren := pairwise_children fs dir
      rw [← List.attach_map_subtype_val (fs.children dir)] at hchildren
      exact List.pairwise_map.mp hchildren
    · rintro ⟨⟨n, e⟩, hchild⟩ -
      cases e with
      | file content => simp
      | link t =>
        dsimp only
        split <;> simp
      | directory =>
        dsimp only
        split
        · simp
        · refine List.pairwise_map.mpr ((ih n hchild).imp fun {a b} hlt => ?_)
          rw [compare_cons, Std.ReflOrd.compare_self]
          exact hlt
    · rintro ⟨⟨n, e⟩, hchild⟩ names h
      cases e with
      | file content => exact ⟨[], by simpa using h⟩
      | link t =>
        dsimp only at h
        split at h
        · simp at h
        · exact ⟨[], by simpa using h⟩
      | directory =>
        dsimp only at h
        split at h
        · simp at h
        · obtain ⟨rest, -, rfl⟩ := List.mem_map.mp h
          exact ⟨rest, rfl⟩

/-- Nothing is found twice. -/
theorem nodup_filesBelow (fs : FileSystem) (leftOut : Name → Bool) (path : Path) (dir : Location) :
    (fs.filesBelow leftOut path dir).Nodup :=
  (pairwise_filesBelow fs leftOut path dir).imp fun {a b} hlt heq => by
    rw [heq, Std.ReflOrd.compare_self] at hlt
    cases hlt

/-! ## How far down a listing comes -/

/-- A listing comes down to each directory that no directory left out is above, if the one above it can be opened. -/
theorem descends_iff {depth : Nat} (hdir : fs.get? dir = some .directory) :
    fs.descends leftOut path dir depth = true ↔
      ∃ names : List Name, names.length = depth ∧ fs.get? (dir ++ names) = some .directory ∧ (∀ n ∈ names, leftOut n = false) ∧
        (names = [] ∨ ¬ (path.append names.dropLast).IsLong) := by
  induction depth generalizing path dir with
  | zero =>
    refine iff_of_true rfl ⟨[], rfl, ?_, by simp, Or.inl rfl⟩
    rwa [List.append_nil]
  | succ depth ih =>
    have hpath : ∀ n more, path.append (n :: more) = (path.append [n]).append more := fun n more => by simp [Path.append]
    rw [descends, Bool.and_eq_true, decide_eq_true_iff, List.any_eq_true]
    constructor
    · rintro ⟨hshort, ⟨n, e⟩, hchild, hbelow⟩
      simp only [Bool.and_eq_true, decide_eq_true_eq, Bool.not_eq_true'] at hbelow
      obtain ⟨⟨rfl, hleft⟩, hbelow⟩ := hbelow
      obtain ⟨names, hlength, hget, hlefts, hlong⟩ := (ih (mem_children_iff.mp hchild)).mp hbelow
      refine ⟨n :: names, by simp [hlength], by simpa using hget, List.forall_mem_cons.mpr ⟨hleft, hlefts⟩, Or.inr ?_⟩
      rcases eq_or_ne names [] with rfl | hne
      · simpa using hshort
      · rw [List.dropLast_cons_of_ne_nil hne, hpath]
        exact hlong.resolve_left hne
    · rintro ⟨names, hlength, hget, hlefts, hlong⟩
      obtain ⟨n, names, rfl⟩ := List.exists_cons_of_length_eq_add_one hlength
      obtain ⟨hleft, hlefts⟩ := List.forall_mem_cons.mp hlefts
      have hlong := hlong.resolve_left (List.cons_ne_nil n names)
      have hchild : fs.get? (dir ++ [n]) = some .directory := by
        rcases eq_or_ne names [] with rfl | hne
        · exact hget
        · exact get?_of_stands_below (m := names) (by simp [hget]) hne
      refine ⟨Nat.le_of_not_lt fun hhere => hlong ?_, (n, .directory), mem_children_iff.mpr hchild, ?_⟩
      · exact @Path.isLong_append path [] _ (by rwa [Path.append_nil])
      · have hbelow : fs.descends leftOut (path.append [n]) (dir ++ [n]) depth = true := by
          refine (ih hchild).mpr ⟨names, by simpa using hlength, by simpa using hget, hlefts, ?_⟩
          rcases eq_or_ne names [] with rfl | hne
          · exact Or.inl rfl
          · rw [List.dropLast_cons_of_ne_nil hne, hpath] at hlong
            exact Or.inr hlong
        simp [hleft, hbelow]

/-- What is found stands one level at most below the directories that the listing comes to. -/
theorem length_of_mem_filesBelow {depth : Nat} (hdepth : fs.descends leftOut path dir (depth + 1) = false)
    (h : names ∈ fs.filesBelow leftOut path dir) : names.length ≤ depth + 1 := by
  obtain ⟨hne, hleaf, hlefts, hlong⟩ := mem_filesBelow_iff.mp h
  by_contra hlength
  -- the first of the names, one fewer than there are, would lead down too far
  have htake : names.take (depth + 1) <+: names.dropLast := by
    rw [List.dropLast_eq_take]
    exact List.take_prefix_take_left (by omega)
  obtain ⟨rest, hrest⟩ := htake
  have hsplit : names.take (depth + 1) ++ names.drop (depth + 1) = names := List.take_append_drop ..
  have hdirectory : fs.get? (dir ++ names.take (depth + 1)) = some .directory := by
    refine get?_of_stands_below (m := names.drop (depth + 1)) ?_ (by simp; omega)
    rw [List.append_assoc, hsplit]
    exact hleaf.stands
  refine Bool.eq_false_iff.mp hdepth ((descends_iff (get?_of_stands_below hleaf.stands hne)).mpr ?_)
  refine ⟨names.take (depth + 1), by simp; omega, hdirectory, fun n hn => ?_, Or.inr fun hlongTake => hlong ?_⟩
  · exact hlefts n (hrest ▸ List.mem_append_left _ hn)
  · obtain ⟨more, hmore⟩ := List.dropLast_prefix (names.take (depth + 1))
    rw [← hrest, ← hmore, List.append_assoc]
    exact Path.isLong_append _ hlongTake

end ClassChain.Files.FileSystem

namespace ClassChain.Files

/-! ## The order of paths -/

/-- A path by its components, as paths are put in order. -/
def Path.parts (p : Path) : List String := p.steps.map Step.text

theorem map_text_lt_of_compare {a b : List Name} (h : compare a b = .lt) : a.map (·.text) < b.map (·.text) := by
  induction a generalizing b with
  | nil =>
    cases b with
    | nil => cases h
    | cons k b => exact List.nil_lt_cons _ _
  | cons n a ih =>
    cases b with
    | nil => cases h
    | cons k b =>
      rw [FileSystem.compare_cons, Ordering.then_eq_lt] at h
      rw [List.map_cons, List.map_cons, List.cons_lt_cons_iff]
      rcases h with hname | ⟨hname, hrest⟩
      · exact Or.inl (compareOfLessAndEq_eq_lt.mp hname)
      · exact Or.inr ⟨congrArg Name.text (Std.LawfulEqOrd.eq_of_compare hname), ih hrest⟩

/-- Paths that go on from the same path are in the order of the names that they go on through. -/
theorem Path.parts_append_lt {a b : List Name} (p : Path) (h : compare a b = .lt) : (p.append a).parts < (p.append b).parts := by
  have hparts : ∀ names, (p.append names).parts = p.parts ++ names.map (·.text) := by
    intro names
    simp [Path.parts, Path.append, Step.text]
  rw [hparts, hparts]
  exact List.append_left_lt (map_text_lt_of_compare h)

end ClassChain.Files

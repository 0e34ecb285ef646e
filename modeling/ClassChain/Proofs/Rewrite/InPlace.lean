import ClassChain.Proofs.Files.Listing
import ClassChain.Proofs.Rewrite.Attempt

/-!
# Checks and rewritings in place

The files found below a directory on which no link stands are independent of each other, both when they are checked
(`independent_check`) and when they are rewritten in place (`independent_inPlace`), and each is told of alike. So a check tells what
a rewriting in place would do: `rewriteTree_check` says that it leaves all as it was, that it has the same results, and that the files
that would be altered are those that are told to change. Where directories stand too deep to be listed, or the path of the directory is
none, both end in the same error and there are no results (`rewriteTree_check_ends`).
-/

namespace ClassChain.Rewrite

open Files (Path FileSystem Location Name Change)

variable {s : Settings} {check : Bool} {fs : FileSystem} {dir : Path} {inn : Location} {names : List Name}

/-! ## Contents -/

/-- The content of the file at a location. -/
def contentAt (fs : FileSystem) (l : Location) : ByteArray :=
  match fs.get? l with
  | some (.file content) => content
  | _ => .empty

theorem contentAt_of_file {l : Location} {content : ByteArray} (h : fs.get? l = some (.file content)) :
    contentAt fs l = content := by
  rw [contentAt, h]

/-- The contents of the files in a directory. -/
abbrev contentsIn (fs : FileSystem) (inn : Location) : List Name → ByteArray := fun names => contentAt fs (inn ++ names)

/-! ## Files in a directory -/

/-- A path leads to a directory, and the file of the names with its content stands in it. -/
structure Present (dir : Path) (inn : Location) (content : List Name → ByteArray) (names : List Name) (fs : FileSystem) : Prop where
  plain : dir.hasNull = false
  leads : fs.resolve dir = .ok (.directory inn)
  file : fs.get? (inn ++ names) = some (.file (content names))

theorem Present.ne_nil {content : List Name → ByteArray} (h : Present dir inn content names fs) : names ≠ [] := by
  rintro rfl
  have hdir : fs.get? inn = some .directory := FileSystem.stands_of_resolve h.leads
  have hfile := h.file
  rw [List.append_nil, hdir] at hfile
  cases hfile

theorem Present.fits {content : List Name → ByteArray} (h : Present dir inn content names fs) : ∀ n ∈ names, n.fits = true := by
  have hstands : fs.get? (inn ++ names) ≠ none := by
    rw [h.file]
    simp
  exact FileSystem.fits_of_mem hstands

theorem Present.input {content : List Name → ByteArray} (h : Present dir inn content names fs) (making : Bool) :
    (dir.append names).hasNull = false ∧
      fs.follow making (dir.append names).route = .ok (.file (inn ++ names) (content names)) :=
  ⟨Path.hasNull_append h.plain h.fits, FileSystem.follow_append_of_file making (FileSystem.follow_of_resolve h.leads) h.file⟩

/-- The file is as present as before where the change sets nothing in its place. -/
theorem Present.keep {content : List Name → ByteArray} {δ : Change} {after : FileSystem} (h : Present dir inn content names fs)
    (htakes : δ.Takes fs after) (hsuits : δ.Suits fs) (hfile : δ (inn ++ names) = none) : Present dir inn content names after where
  plain := h.plain
  leads := (htakes.grown hsuits).resolve h.leads
  file := by rw [htakes.get?, hfile, Option.none_or, h.file]

/-- The result of a file that is checked or rewritten in place. -/
def toldAlone (s : Settings) (input output : Path) (content : ByteArray) : Result :=
  told s input output content (fault? s input content)

/-- Files that are checked are independent. -/
theorem independent_check (s : Settings) (dir : Path) (out? : Option Path) (inn : Location) (content : List Name → ByteArray) :
    Independent s true (fun names => (dir.append names, out?.map (·.append names))) (fun _ => Change.none)
      (fun names r => r = toldAlone s (dir.append names) ((out?.map (·.append names)).getD (dir.append names)) (content names))
      (Present dir inn content) where
  performs {names fs} h := by
    obtain ⟨hnull, hfollow⟩ := h.input false
    have hattempt : ∀ output, attempt s true fs (dir.append names) output (content names) =
        ⟨fs, fault? s (dir.append names) (content names)⟩ := by
      intro output
      unfold attempt
      split <;> simp_all
    obtain ⟨hfiles, hresult⟩ := rewriteFile_eq_attempt s true (out?.map (·.append names)) hnull hfollow
      (by rw [hattempt]; exact fun _ => isExpected_of_fault?)
    rw [hattempt] at hfiles hresult
    exact ⟨hfiles ▸ Change.Takes.refl fs, _, hresult, rfl⟩
  keeps _ _ h htakes := h.keep htakes (by intro m e he; cases he) rfl
  agrees _ _ _ := by intro m e f he; cases he

/-- What the rewriting of a file in place changes. -/
def newFile (s : Settings) (input : Path) (l : Location) (content : ByteArray) : Change :=
  match newCode? s input content with
  | some code => .file l (Text.Utf8.encode code)
  | none => .none

theorem newFile_eq_some_iff {input : Path} {l m : Location} {content : ByteArray} {e : Files.Entry} :
    newFile s input l content m = some e ↔
      l = m ∧ ∃ code, newCode? s input content = some code ∧ e = .file (Text.Utf8.encode code) := by
  unfold newFile
  cases newCode? s input content with
  | none => simp
  | some code => simp [Change.file_eq_some]

theorem newFile_suits {input : Path} {l : Location} {content old : ByteArray} (h : fs.get? l = some (.file old)) :
    (newFile s input l content).Suits fs := by
  intro m e he
  obtain ⟨rfl, code, -, rfl⟩ := newFile_eq_some_iff.mp he
  exact Or.inr ⟨⟨_, rfl⟩, Or.inr ⟨old, h⟩⟩

/-- In place a file gets its new code if there is any, and nothing else happens. -/
theorem Present.attempt_self {content : List Name → ByteArray} (h : Present dir inn content names fs) :
    (newFile s (dir.append names) (inn ++ names) (content names)).Takes fs
        (attempt s false fs (dir.append names) (dir.append names) (content names)).files ∧
      (attempt s false fs (dir.append names) (dir.append names) (content names)).error? =
        fault? s (dir.append names) (content names) := by
  obtain ⟨hnull, hfollow⟩ := h.input true
  unfold attempt newFile
  cases hfault : fault? s (dir.append names) (content names) with
  | some error =>
    rw [newCode?_of_fault? hfault]
    exact ⟨Change.Takes.refl fs, rfl⟩
  | none =>
    cases hcode : newCode? s (dir.append names) (content names) with
    | none =>
      simp only [deliver, if_true]
      exact ⟨Change.Takes.refl fs, rfl⟩
    | some code =>
      obtain ⟨-, hshort, -⟩ := newCode?_eq_some_iff.mp hcode
      simp only [deliver, if_true]
      rw [FileSystem.write_of_file (Path.legal_of_not_isLong hnull hshort) hfollow]
      exact ⟨FileSystem.takes_putFile (FileSystem.isFree_of_file h.file) _, rfl⟩

/-- Files that are rewritten in place are independent. -/
theorem independent_inPlace (s : Settings) (dir : Path) (inn : Location) (content : List Name → ByteArray) :
    Independent s false (fun names => (dir.append names, none))
      (fun names => newFile s (dir.append names) (inn ++ names) (content names))
      (fun names r => r = toldAlone s (dir.append names) (dir.append names) (content names))
      (Present dir inn content) where
  performs {names fs} h := by
    obtain ⟨htakes, herror⟩ := h.attempt_self (s := s)
    obtain ⟨hfiles, hresult⟩ := rewriteFile_eq_attempt s false none (h.input false).1 (h.input false).2
      (by rw [Option.getD_none, herror]; exact fun _ => isExpected_of_fault?)
    refine ⟨?_, _, hresult, ?_⟩
    · rw [hfiles]
      exact htakes
    · rw [toldAlone, Option.getD_none, herror]
  keeps {a b fs after} hne ha hb htakes := by
    refine hb.keep htakes (newFile_suits ha.file) (Option.eq_none_iff_forall_ne_some.mpr fun e he => hne ?_)
    simpa using (newFile_eq_some_iff.mp he).1
  agrees {a b fs} hne _ _ := by
    intro m e f he hf
    have hsame := (newFile_eq_some_iff.mp he).1.trans (newFile_eq_some_iff.mp hf).1.symm
    exact absurd (by simpa using hsame) hne

/-! ## Trees -/

/-- What is found where no link stands is present. -/
theorem Found.present_of_resolve {found : List (List Name)} (h : Found s fs dir found) (hnull : dir.hasNull = false)
    (hinn : fs.resolve dir = .ok (.directory inn)) (hlink : fs.NoLinkBelow inn) :
    ∀ names ∈ found, Present dir inn (contentsIn fs inn) names fs := by
  intro names hnames
  obtain ⟨inn', hinn', hfile⟩ := h.file names hnames
  obtain rfl : inn = inn' := by simpa using hinn.symm.trans hinn'
  obtain ⟨content, hcontent⟩ := hfile hlink
  exact ⟨hnull, hinn, by rw [contentsIn, contentAt_of_file hcontent, hcontent]⟩

theorem Found.present {found : List (List Name)} (h : Found s fs dir found) (hnull : dir.hasNull = false)
    (hlink : ∀ inn, fs.resolve dir = .ok (.directory inn) → fs.NoLinkBelow inn) :
    ∃ inn, ∀ names ∈ found, Present dir inn (contentsIn fs inn) names fs := by
  by_cases hdir : ∃ inn, fs.resolve dir = .ok (.directory inn)
  · obtain ⟨inn, hinn⟩ := hdir
    exact ⟨inn, h.present_of_resolve hnull hinn (hlink inn hinn)⟩
  · refine ⟨[], fun names hnames => ?_⟩
    obtain ⟨inn, hinn, -⟩ := h.file names hnames
    exact absurd ⟨inn, hinn⟩ hdir

theorem eq_map_of_forall₂ {α β : Type} {f : α → β} {xs : List α} {ys : List β} (h : List.Forall₂ (fun x y => y = f x) xs ys) :
    ys = xs.map f := by
  induction h with
  | nil => rfl
  | cons hxy _ ih => rw [hxy, ih, List.map_cons]

/-- A path that is not too long leads to the file. -/
theorem Present.locate? {content : List Name → ByteArray} (h : Present dir inn content names fs) :
    fs.locate? (dir.append names) = if (dir.append names).IsLong then none else some (inn ++ names) := by
  rw [FileSystem.locate?]
  by_cases hlong : (dir.append names).IsLong
  · rw [FileSystem.resolve_of_long hlong, if_pos hlong]
  · rw [FileSystem.resolve_of_not_long hlong, (h.input false).2, if_neg hlong]

namespace Sample

/-- A file beside the directories. -/
def beside : Name := ⟨"f", by decide⟩

/-- Two files in a directory, an empty directory, and a file beside them. -/
def files : FileSystem :=
  ((((FileSystem.empty.makeDirectory [input]).putFile [input, first] (Text.Utf8.encode "h:x|y")).putFile [input, second]
    (Text.Utf8.encode "z")).makeDirectory [output]).putFile [beside] (Text.Utf8.encode "")

theorem noLinkBelow (l : Location) : files.NoLinkBelow l :=
  ((((FileSystem.noLinkBelow_empty l).makeDirectory _).putFile _ _ |>.putFile _ _).makeDirectory _).putFile _ _

theorem resolve_input : files.resolve inputPath = .ok (.directory [input]) := resolve_inputPath rfl (by decide)

theorem findFiles_input : findFiles {} files inputPath = .ok [[first], [second]] :=
  findFiles_of_entries (by decide) resolve_input (noLinkBelow _) (by decide) (by decide) (by decide) (by decide)

theorem present : ∀ names ∈ [[first], [second]], Present inputPath [input] (contentsIn files [input]) names files :=
  (found_of_findFiles (by decide) findFiles_input).present_of_resolve (by decide) resolve_input (noLinkBelow _)

end Sample

end ClassChain.Rewrite

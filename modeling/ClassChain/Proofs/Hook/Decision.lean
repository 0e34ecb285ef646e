import Mathlib.Data.List.Forall2
import ClassChain.Hook

/-!
# What the decisions of the hook depend on

The lists of the settings could be sets: their order and their repetitions tell nothing. For excluded directories and for scripts this
is plain, since only membership is asked. Of the extensions the longest that the id has is taken, the first of them where several
are as long; but two endings of one id that are as long are the same ending, so there is never a choice (`extension?_eq_some_iff`).

Of the id the kind of its separators tells nothing either, as long as no extension has a separator in it: the id is cut at both kinds
(`directories_congr`), and an ending without separators is there or not whichever kind stands before it (`hasExtension_congr`).

`decisions_agree` puts both together.
-/

namespace ClassChain

/-- Settings that name the same extensions, scripts and directories, in whatever order and however often. -/
structure Settings.SameNames (s t : Settings) : Prop where
  fileExtensions : ∀ ext, ext ∈ s.fileExtensions ↔ ext ∈ t.fileExtensions
  scriptExtensions : ∀ ext, ext ∈ s.scriptExtensions ↔ ext ∈ t.scriptExtensions
  excludedDirs : ∀ dir, dir ∈ s.excludedDirs ↔ dir ∈ t.excludedDirs

namespace Hook

/-- A text without a separator of either kind. -/
def Unseparated (text : String) : Prop := ∀ c ∈ text.toList, isPathSeparator c = false

/-- The same character, or separators of whichever kind. -/
def SeparatesAlike (c d : Char) : Prop := c = d ∨ isPathSeparator c = true ∧ isPathSeparator d = true

/-- Ids that are the same but for the kind of their separators. -/
def SameButSeparators (id other : String) : Prop := List.Forall₂ SeparatesAlike id.toList other.toList

/-- Under two settings all decisions about two ids are the same, and so is the answer on any code. -/
structure SameDecisions (s t : Settings) (id other : String) : Prop where
  extension? : extension? id s.fileExtensions = extension? other t.fileExtensions
  excludes : s.excludes id = t.excludes other
  accepts : s.accepts id = t.accepts other
  modeOf : s.modeOf id = t.modeOf other
  transform : ∀ code, transform s code id = transform t code other

/-! ## The longest extension -/

theorem longest?_eq_none_iff {texts : List String} : longest? texts = none ↔ texts = [] := by
  cases texts with
  | nil => simp [longest?]
  | cons text texts =>
    rw [longest?]
    cases longest? texts with
    | none => simp
    | some best => by_cases hlt : text.length < best.length <;> simp [hlt]

/-- The longest of some texts is one of them, and none of them is longer. -/
theorem mem_and_le_of_longest? {texts : List String} {text : String} (h : longest? texts = some text) :
    text ∈ texts ∧ ∀ other ∈ texts, other.length ≤ text.length := by
  induction texts generalizing text with
  | nil => simp [longest?] at h
  | cons first rest ih =>
    cases hrest : longest? rest with
    | none =>
      obtain rfl : first = text := by simpa [longest?, hrest] using h
      simp [longest?_eq_none_iff.mp hrest]
    | some best =>
      obtain ⟨hmem, hle⟩ := ih hrest
      simp only [longest?, hrest] at h
      split at h
      · obtain rfl := Option.some.inj h
        exact ⟨List.mem_cons_of_mem _ hmem, List.forall_mem_cons.mpr ⟨by omega, hle⟩⟩
      · obtain rfl := Option.some.inj h
        refine ⟨List.mem_cons_self, List.forall_mem_cons.mpr ⟨Nat.le_refl _, fun other hother => ?_⟩⟩
        have := hle other hother
        omega

theorem hasExtension_iff {id ext : String} : hasExtension id ext = true ↔ '.' :: ext.toList <:+ id.toList := by
  rw [hasExtension, List.isSuffixOf_iff_suffix]

/-- An id has no two extensions that are as long. -/
theorem eq_of_hasExtension {id ext other : String} (h : hasExtension id ext = true) (hother : hasExtension id other = true)
    (hlength : ext.length = other.length) : ext = other := by
  have hcons : ('.' :: ext.toList).length = ('.' :: other.toList).length := by
    rw [List.length_cons, List.length_cons, String.length_toList, String.length_toList, hlength]
  have hsuffix := List.suffix_of_suffix_length_le (hasExtension_iff.mp h) (hasExtension_iff.mp hother) (Nat.le_of_eq hcons)
  have hlists := hsuffix.eq_of_length hcons
  exact String.toList_inj.mp (List.cons.inj hlists).2

/-- The extension that is told is the one on the list that the id has while it has no longer one. -/
theorem extension?_eq_some_iff {id ext : String} {extensions : List String} :
    extension? id extensions = some ext ↔
      (ext ∈ extensions ∧ hasExtension id ext = true) ∧
        ∀ other, other ∈ extensions ∧ hasExtension id other = true → other.length ≤ ext.length := by
  rw [extension?]
  constructor
  · intro h
    have hbest := mem_and_le_of_longest? h
    simpa only [List.mem_filter] using hbest
  · rintro ⟨⟨hmem, hhas⟩, hle⟩
    cases hlongest : longest? (extensions.filter (hasExtension id ·)) with
    | none =>
      have hempty := longest?_eq_none_iff.mp hlongest
      exact absurd (List.mem_filter.mpr ⟨hmem, hhas⟩) (by simp [hempty])
    | some best =>
      obtain ⟨hbest, hbestLe⟩ := mem_and_le_of_longest? hlongest
      obtain ⟨hbestMem, hbestHas⟩ := List.mem_filter.mp hbest
      have hge := hbestLe ext (List.mem_filter.mpr ⟨hmem, hhas⟩)
      have hlength : best.length = ext.length := Nat.le_antisymm (hle best ⟨hbestMem, hbestHas⟩) hge
      rw [eq_of_hasExtension hbestHas hhas hlength]

/-- The extension that is told depends only on which extensions on the list the id has. -/
theorem extension?_congr {id other : String} {extensions others : List String}
    (h : ∀ ext, ext ∈ extensions ∧ hasExtension id ext = true ↔ ext ∈ others ∧ hasExtension other ext = true) :
    extension? id extensions = extension? other others := by
  apply Option.ext
  intro ext
  rw [extension?_eq_some_iff, extension?_eq_some_iff, h ext]
  simp only [h]

/-! ## Separators of another kind -/

theorem SeparatesAlike.symm {c d : Char} (h : SeparatesAlike c d) : SeparatesAlike d c := by
  rcases h with rfl | ⟨hc, hd⟩
  · exact Or.inl rfl
  · exact Or.inr ⟨hd, hc⟩

variable {cs ds : List Char}

/-- Without separators, characters that are the same but for them are the same. -/
theorem eq_of_separatesAlike (h : List.Forall₂ SeparatesAlike cs ds) (hplain : ∀ c ∈ cs, isPathSeparator c = false) :
    cs = ds := by
  induction h with
  | nil => rfl
  | @cons c d cs ds hcd _ ih =>
    obtain ⟨hc, hcs⟩ := List.forall_mem_cons.mp hplain
    rcases hcd with rfl | ⟨hsep, -⟩
    · rw [ih hcs]
    · rw [hc] at hsep
      cases hsep

/-- An ending without separators stays an ending when separators change their kind. -/
theorem suffix_of_separatesAlike {ending : List Char} (h : List.Forall₂ SeparatesAlike cs ds)
    (hplain : ∀ c ∈ ending, isPathSeparator c = false) (hcs : ending <:+ cs) : ending <:+ ds := by
  induction h with
  | nil => exact hcs
  | @cons c d cs ds hcd hrest ih =>
    rcases List.suffix_cons_iff.mp hcs with rfl | hcs
    · have heq : c :: cs = d :: ds := eq_of_separatesAlike (.cons hcd hrest) hplain
      exact heq ▸ List.suffix_refl (c :: cs)
    · exact (ih hcs).trans (List.suffix_cons d ds)

/-- Text is cut into the same parts when separators change their kind. -/
theorem splitWhere_congr (h : List.Forall₂ SeparatesAlike cs ds) :
    Text.splitWhere isPathSeparator cs = Text.splitWhere isPathSeparator ds := by
  induction h with
  | nil => rfl
  | cons hcd _ ih =>
    rcases hcd with rfl | ⟨hc, hd⟩
    · rw [Text.splitWhere, Text.splitWhere, ih]
    · rw [Text.splitWhere, Text.splitWhere, if_pos hc, if_pos hd, ih]

variable {id other : String}

theorem directories_congr (h : SameButSeparators id other) : directories id = directories other := by
  rw [directories, directories, splitWhere_congr h]

theorem hasExtension_congr {ext : String} (h : SameButSeparators id other) (hplain : Unseparated ext) :
    hasExtension id ext = true ↔ hasExtension other ext = true := by
  have hending : ∀ c ∈ '.' :: ext.toList, isPathSeparator c = false := List.forall_mem_cons.mpr ⟨rfl, hplain⟩
  have hback : List.Forall₂ SeparatesAlike other.toList id.toList := (h.imp fun _ _ => SeparatesAlike.symm).flip
  rw [hasExtension_iff, hasExtension_iff]
  exact ⟨suffix_of_separatesAlike h hending, suffix_of_separatesAlike hback hending⟩

/-! ## The decisions -/

variable {s t : Settings}

/-- Everything the hook decides comes from the extension that is told, the directories of the id, and membership in the lists. -/
theorem sameDecisions_of (hst : s.SameNames t) (hext : extension? id s.fileExtensions = extension? other t.fileExtensions)
    (hdirs : directories id = directories other) : SameDecisions s t id other := by
  have hexcludes : s.excludes id = t.excludes other := by
    rw [Settings.excludes, Settings.excludes, hdirs]
    refine congrArg (directories other).any (funext fun dir => ?_)
    rw [Bool.eq_iff_iff, List.contains_iff_mem, List.contains_iff_mem]
    exact hst.excludedDirs dir
  have haccepts : s.accepts id = t.accepts other := by rw [Settings.accepts, Settings.accepts, hexcludes, hext]
  have hmode : s.modeOf id = t.modeOf other := by
    have hscripts : ∀ ext, s.scriptExtensions.contains ext = t.scriptExtensions.contains ext := by
      intro ext
      rw [Bool.eq_iff_iff, List.contains_iff_mem, List.contains_iff_mem]
      exact hst.scriptExtensions ext
    simp only [Settings.modeOf, hext, hscripts]
  refine ⟨hext, hexcludes, haccepts, hmode, fun code => ?_⟩
  rw [Hook.transform, Hook.transform, haccepts, hmode]

/-- Settings that name the same extensions, scripts and directories decide the same about every id, and if no extension has a separator
in it they decide the same about every id that differs from it only in the kind of its separators. -/
theorem decisions_agree (hst : s.SameNames t) (id : String) :
    SameDecisions s t id id ∧
      ((∀ ext ∈ s.fileExtensions, Unseparated ext) → ∀ other, SameButSeparators id other → SameDecisions s t id other) := by
  constructor
  · have hext : extension? id s.fileExtensions = extension? id t.fileExtensions :=
      extension?_congr fun ext => and_congr_left' (hst.fileExtensions ext)
    exact sameDecisions_of hst hext rfl
  · intro hplain other hid
    have hext : extension? id s.fileExtensions = extension? other t.fileExtensions := by
      refine extension?_congr fun ext => ?_
      rw [← hst.fileExtensions ext]
      exact and_congr_right fun hmem => hasExtension_congr hid (hplain ext hmem)
    exact sameDecisions_of hst hext (directories_congr hid)

-- with a separator in an extension the kind does tell
example : extension? "x.a/b" ["a/b"] = some "a/b" ∧ extension? "x.a\\b" ["a/b"] = none := by decide

/-- Extensions of which one ends another, the longer of them a script, and two directories. -/
def listed : Settings :=
  { fileExtensions := ["php", "blade.php", "html"], scriptExtensions := ["blade.php", "js"], excludedDirs := ["vendor", "dist"] }

/-- The same names in another order and some of them twice. -/
def shuffled : Settings :=
  { fileExtensions := ["blade.php", "html", "php", "blade.php"], scriptExtensions := ["js", "blade.php", "js"],
    excludedDirs := ["dist", "vendor", "dist"] }

/-- A template with both separators in its id, and the id with each of them turned round. -/
theorem decisions_agree_shuffled :
    listed.SameNames shuffled ∧ (∀ ext ∈ listed.fileExtensions, Unseparated ext) ∧
      SameButSeparators "views\\lib/a.blade.php" "views/lib\\a.blade.php" ∧
      SameDecisions listed shuffled "views\\lib/a.blade.php" "views\\lib/a.blade.php" ∧
      SameDecisions listed shuffled "views\\lib/a.blade.php" "views/lib\\a.blade.php" := by
  have hnames : listed.SameNames shuffled := by
    constructor <;> intro name <;> simp only [listed, shuffled, List.mem_cons, List.not_mem_nil, or_false] <;> tauto
  have hplain : ∀ ext ∈ listed.fileExtensions, Unseparated ext := by
    have hall : (listed.fileExtensions.all fun ext => ext.toList.all (!isPathSeparator ·)) = true := by decide
    intro ext hext c hc
    simpa using List.all_eq_true.mp (List.all_eq_true.mp hall ext hext) c hc
  have hids : SameButSeparators "views\\lib/a.blade.php" "views/lib\\a.blade.php" := by
    unfold SameButSeparators SeparatesAlike
    decide
  obtain ⟨hsame, hother⟩ := decisions_agree hnames "views\\lib/a.blade.php"
  exact ⟨hnames, hplain, hids, hsame, hother hplain _ hids⟩

end Hook

end ClassChain

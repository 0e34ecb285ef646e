import ClassChain.Proofs.Files.Walk

/-!
# Changes

A change says what an operation sets where. It takes a file system to another if there stands what it sets, and elsewhere what
stood before (`Change.Takes`). Changes follow one another (`Takes.andThen`). A change that puts directories only where nothing or a
directory stands, and files only where nothing or a file stands, leaves links alone and lets a file system grow (`Takes.grown`).
-/

namespace ClassChain.Files

/-- What is set at each location, if anything. -/
abbrev Change := Location → Option Entry

namespace Change

/-- Nothing is set. -/
def none : Change := fun _ => .none

/-- Directories are made. -/
def directories (places : List Location) : Change := fun m => if m ∈ places then some .directory else .none

/-- A file is given a content. -/
def file (l : Location) (content : ByteArray) : Change := fun m => if l = m then some (.file content) else .none

/-- One change and then another, which is the last to set what both set. -/
def andThen (first second : Change) : Change := fun m => (second m).or (first m)

/-- All changes, one after another. -/
def all (changes : List Change) : Change := changes.foldr andThen none

/-- Two changes set the same wherever both set something. -/
def Agrees (δ ε : Change) : Prop := ∀ m e f, δ m = some e → ε m = some f → e = f

/-- The change takes one file system to the other. -/
structure Takes (δ : Change) (fs after : FileSystem) : Prop where
  standing : after.standing = fs.standing
  get? : ∀ m, after.get? m = (δ m).or (fs.get? m)

/-- The change replaces nothing but files, and these by files; and what it sets where nothing stands is no link. -/
def Suits (δ : Change) (fs : FileSystem) : Prop :=
  ∀ m e, δ m = some e →
    e = .directory ∧ (fs.get? m = .none ∨ fs.get? m = some .directory) ∨
      (∃ new, e = .file new) ∧ (fs.get? m = .none ∨ ∃ old, fs.get? m = some (.file old))

variable {δ ε : Change} {fs mid after : FileSystem}

@[simp] theorem none_apply (m : Location) : none m = .none := rfl

theorem directories_eq_some {places : List Location} {m : Location} {e : Entry} :
    directories places m = some e ↔ m ∈ places ∧ e = .directory := by
  simp [directories, eq_comm]

theorem file_eq_some {l m : Location} {content : ByteArray} {e : Entry} :
    file l content m = some e ↔ l = m ∧ e = .file content := by
  simp [file, eq_comm]

theorem andThen_eq_some {m : Location} {e : Entry} :
    δ.andThen ε m = some e ↔ ε m = some e ∨ ε m = .none ∧ δ m = some e := Option.or_eq_some_iff

theorem directories_append (front back : List Location) :
    (directories front).andThen (directories back) = directories (front ++ back) := by
  funext m
  by_cases hfront : m ∈ front <;> by_cases hback : m ∈ back <;> simp [andThen, directories, hfront, hback]

/-- Changes that agree set together what one of them sets, in whatever order they follow one another. -/
theorem all_eq_some_iff {changes : List Change} (h : changes.Pairwise Agrees) {m : Location} {e : Entry} :
    all changes m = some e ↔ ∃ δ ∈ changes, δ m = some e := by
  induction h generalizing e with
  | nil => simp [all]
  | @cons δ rest hδ hrest ih =>
    have hall : all (δ :: rest) m = some e ↔ all rest m = some e ∨ all rest m = .none ∧ δ m = some e := andThen_eq_some
    rw [hall]
    constructor
    · rintro (hlater | ⟨-, hδm⟩)
      · obtain ⟨ε, hε, hεm⟩ := ih.mp hlater
        exact ⟨ε, List.mem_cons_of_mem _ hε, hεm⟩
      · exact ⟨δ, List.mem_cons_self, hδm⟩
    · rintro ⟨ε, hε, hεm⟩
      rcases List.mem_cons.mp hε with rfl | hε
      · cases hlater : all rest m with
        | none => exact Or.inr ⟨rfl, hεm⟩
        | some f =>
          -- a later change sets this place too, and sets the same
          obtain ⟨η, hη, hηm⟩ := ih.mp hlater
          exact Or.inl (by rw [hδ η hη m e f hεm hηm])
      · exact Or.inl (ih.mpr ⟨ε, hε, hεm⟩)

theorem Takes.refl (fs : FileSystem) : none.Takes fs fs := ⟨rfl, fun _ => rfl⟩

/-- A change that sets nothing leaves the file system as it is. -/
theorem Takes.eq_of_none (h : none.Takes fs after) : after = fs := FileSystem.ext h.standing fun m => by rw [h.get?]; rfl

theorem Takes.andThen (h : δ.Takes fs mid) (h' : ε.Takes mid after) : (δ.andThen ε).Takes fs after where
  standing := h'.standing.trans h.standing
  get? m := by rw [h'.get?, h.get?, Change.andThen, Option.or_assoc]

/-- A suitable change lets a file system grow. -/
theorem Takes.grown (h : δ.Takes fs after) (hs : δ.Suits fs) : FileSystem.Grown fs after where
  standing := h.standing
  directory {l} hl := by
    rw [h.get?]
    cases hδ : δ l with
    | none => exact hl
    | some e =>
      rcases hs l e hδ with ⟨rfl, -⟩ | ⟨-, hold | ⟨old, hold⟩⟩
      · rfl
      · rw [hold] at hl; cases hl
      · rw [hold] at hl; cases hl
  link {l t} hl := by
    rw [h.get?]
    cases hδ : δ l with
    | none => exact hl
    | some e =>
      rcases hs l e hδ with ⟨-, hold | hold⟩ | ⟨-, hold | ⟨old, hold⟩⟩ <;> (rw [hold] at hl; cases hl)
  file {l content} hl := by
    rw [h.get?]
    cases hδ : δ l with
    | none => exact ⟨content, hl⟩
    | some e =>
      rcases hs l e hδ with ⟨-, hold | hold⟩ | ⟨⟨new, rfl⟩, -⟩
      · rw [hold] at hl; cases hl
      · rw [hold] at hl; cases hl
      · exact ⟨new, rfl⟩

/-- A suitable change sets no link. -/
theorem Takes.get?_ne_link (h : δ.Takes fs after) (hs : δ.Suits fs) {m : Location} (hm : ∀ t, fs.get? m ≠ some (.link t))
    (t : String) : after.get? m ≠ some (.link t) := by
  rw [h.get?]
  cases hδ : δ m with
  | none => exact hm t
  | some e => rcases hs m e hδ with ⟨rfl, -⟩ | ⟨⟨new, rfl⟩, -⟩ <;> simp

end Change

namespace FileSystem

variable {fs : FileSystem} {l : Location}

theorem takes_makeDirectory (h : fs.isFree l = true) : (Change.directories [l]).Takes fs (fs.makeDirectory l) where
  standing := by rw [makeDirectory, dif_pos h, set]
  get? m := by
    rw [get?_makeDirectory h]
    by_cases hm : l = m <;> simp [Change.directories, hm, eq_comm (a := m)]

theorem takes_putFile (h : fs.isFree l = true) (content : ByteArray) : (Change.file l content).Takes fs (fs.putFile l content) where
  standing := by rw [putFile, dif_pos h, set]
  get? m := by
    rw [get?_putFile h, Change.file]
    split <;> rfl

/-- The making of a directory changes at most its own location. -/
theorem get?_makeDirectory_cases (fs : FileSystem) (l m : Location) :
    (fs.makeDirectory l).get? m = fs.get? m ∨ l = m ∧ (fs.makeDirectory l).get? m = some .directory := by
  by_cases h : fs.isFree l = true
  · rw [get?_makeDirectory h]
    by_cases hm : l = m <;> simp [hm]
  · rw [makeDirectory, dif_neg h]
    exact Or.inl rfl

/-- The putting of a file changes at most its own location. -/
theorem get?_putFile_cases (fs : FileSystem) (l m : Location) (content : ByteArray) :
    (fs.putFile l content).get? m = fs.get? m ∨ l = m ∧ (fs.putFile l content).get? m = some (.file content) := by
  by_cases h : fs.isFree l = true
  · rw [get?_putFile h]
    by_cases hm : l = m <;> simp [hm]
  · rw [putFile, dif_neg h]
    exact Or.inl rfl

end FileSystem

end ClassChain.Files

import ClassChain.Proofs.Files.Path
import ClassChain.Files.Operation

/-!
# Refusals

A work with files has to expect that the file system refuses a path and that bytes are no text (`Error.isExpected`). There are two
errors beside these. A null character in a path is refused before anything is looked up, and an operation on paths without one never
ends in that error, whatever the file system holds. The other comes of the making of directories alone, where too many are missing
(`ensure_error`). Reading, writing, making one directory or all above it, and copying are taken in turn; a copy also uses a path
that no one gave, into the directory that its target leads to (`hasNull_enter`).
-/

namespace ClassChain.Files

/-- A refusal of the file system, or bytes that are no text. -/
def Error.isExpected : Error → Bool
  | .nullCharacter | .tooDeep _ => false
  | _ => true

/-- A step as it is written holds a null character only if a step of the path does. -/
theorem Path.not_mem_of_mem_writtenSteps {p : Path} (h : p.hasNull = false) {step : Step} (hstep : step ∈ p.writtenSteps) :
    '\x00' ∉ step.text.toList := by
  intro hmem
  unfold Path.writtenSteps at hstep
  split at hstep
  · obtain rfl := List.mem_singleton.mp hstep
    simp [Step.text] at hmem
  · have hnull := Path.hasNull_iff.mpr ⟨step, hstep, hmem⟩
    rw [h] at hnull
    cases hnull

theorem Path.hasNull_enter {p source : Path} (hp : p.hasNull = false) (hsource : source.hasNull = false) :
    (p.enter source).hasNull = false := by
  rw [Bool.eq_false_iff]
  intro hnull
  obtain ⟨step, hstep, hmem⟩ := Path.hasNull_iff.mp hnull
  rcases List.mem_append.mp hstep with hstep | hlast
  · exact Path.not_mem_of_mem_writtenSteps hp hstep hmem
  · exact Path.not_mem_of_mem_writtenSteps hsource (List.mem_of_getLast? (Option.mem_toList.mp hlast)) hmem

namespace FileSystem

variable {fs : FileSystem} {p source target : Path} {error : Error}

theorem isExpected_of_readBytes (hnull : p.hasNull = false) (h : fs.readBytes p = .error error) : error.isExpected = true := by
  rw [readBytes, hnull, if_neg (by simp)] at h
  split at h <;> cases h <;> rfl

theorem isExpected_of_textOf {bytes : ByteArray} (h : textOf bytes = .error error) : error.isExpected = true := by
  unfold textOf at h
  split at h <;> cases h
  rfl

theorem isExpected_of_readText (hnull : p.hasNull = false) (h : fs.readText p = .error error) : error.isExpected = true := by
  cases hbytes : fs.readBytes p with
  | error cause =>
    rw [readText, hbytes] at h
    cases h
    exact isExpected_of_readBytes hnull hbytes
  | ok bytes =>
    rw [readText, hbytes] at h
    exact isExpected_of_textOf h

theorem isExpected_of_write {content : ByteArray} (hnull : p.hasNull = false) (h : fs.write p content = .error error) :
    error.isExpected = true := by
  rw [write, hnull, if_neg (by simp)] at h
  split at h <;> cases h <;> rfl

/-- The making of one directory is refused at its own path. -/
theorem makeOne_error (h : fs.makeOne p = .error error) :
    p.hasNull = true ∧ error = .nullCharacter ∨ ∃ cause, error = .refused cause p := by
  unfold makeOne at h
  repeat' split at h
  all_goals cases h
  all_goals simp_all

theorem askDirectory_error (h : fs.askDirectory p = .error error) : error = .refused .nameTooLong p := by
  unfold askDirectory at h
  repeat' split at h
  all_goals simp_all

/-- A directory is refused at its own path, unless there is one. -/
theorem ensureOne_error (h : (fs.ensureOne p).error? = some error) :
    p.hasNull = true ∧ error = .nullCharacter ∨ ∃ cause, error = .refused cause p := by
  unfold ensureOne at h
  split at h
  · cases h
  · rename_i hmake
    cases h
    exact makeOne_error hmake
  · rename_i hmake
    split at h
    · cases h
    · cases h
      exact makeOne_error hmake
    · rename_i hask
      cases h
      exact Or.inr ⟨_, askDirectory_error hask⟩
  · rename_i hmake
    cases h
    exact makeOne_error hmake

theorem isExpected_of_ensureOne (hnull : p.hasNull = false) (h : (fs.ensureOne p).error? = some error) :
    error.isExpected = true := by
  rcases ensureOne_error h with ⟨hp, -⟩ | ⟨cause, rfl⟩
  · rw [hnull] at hp
    cases hp
  · rfl

/-- The making of a directory and all above it ends in no other unexpected error than that too many are missing. -/
theorem ensureWithin_error {calls : Nat} (hnull : p.hasNull = false) (h : (fs.ensureWithin p calls).error? = some error) :
    error.isExpected = true ∨ error = .tooDeep .making := by
  induction calls generalizing fs p with
  | zero =>
    cases h
    exact Or.inr rfl
  | succ calls ih =>
    unfold ensureWithin at h
    split at h
    · rename_i left shown hone
      split at h
      · cases h
        exact Or.inl rfl
      · split at h
        · exact Or.inl (isExpected_of_ensureOne hnull h)
        · exact ih (Path.hasNull_parent hnull) h
    · exact Or.inl (isExpected_of_ensureOne hnull h)

theorem ensure_error (hnull : p.hasNull = false) (h : (fs.ensure p).error? = some error) :
    error.isExpected = true ∨ error = .tooDeep .making := ensureWithin_error hnull h

theorem isExpected_of_copy (hsource : source.hasNull = false) (htarget : target.hasNull = false)
    (h : fs.copy source target = .error error) : error.isExpected = true := by
  have hgoal : (if fs.isDirectory target then target.enter source else target).hasNull = false := by
    split
    · exact Path.hasNull_enter htarget hsource
    · exact htarget
  rw [copy] at h
  generalize (if fs.isDirectory target then target.enter source else target) = goal at h hgoal
  rw [hsource, hgoal, if_neg (by simp)] at h
  split at h
  · cases h
    rfl
  · cases hread : fs.readBytes source with
    | error cause =>
      rw [hread] at h
      cases h
      exact isExpected_of_readBytes hsource hread
    | ok content =>
      rw [hread] at h
      simp only [bind, Except.bind] at h
      split at h
      · cases h
        split <;> rfl
      · exact isExpected_of_write hgoal h

end FileSystem

end ClassChain.Files

import ClassChain.Proofs.Files.Reading
import ClassChain.Proofs.Files.Refusal

/-!
# What the making of directories leaves

The making of a directory with all that are missing above it can stop halfway, and links may stand anywhere on the way. Whatever comes
of it, nothing that stood before is touched: there are at most some directories more, each where nothing stood and where a path above
leads (`paved_ensure`). So all files are what they were (`Paved.file_iff`), and a file is read by the path by which it was read before
(`Paved.readBytes`).
-/

namespace ClassChain.Files

/-- The path is the other one or is above it: it has the same start and the first of its steps. -/
def Path.IsAbove (q p : Path) : Prop := q.anchor = p.anchor ∧ q.steps <+: p.steps

theorem Path.IsAbove.refl (p : Path) : p.IsAbove p := ⟨rfl, List.prefix_refl _⟩

theorem Path.IsAbove.trans {p q r : Path} (h : p.IsAbove q) (h' : q.IsAbove r) : p.IsAbove r := ⟨h.1.trans h'.1, h.2.trans h'.2⟩

theorem Path.isAbove_parent (p : Path) : p.parent.IsAbove p := ⟨rfl, List.dropLast_prefix _⟩

namespace FileSystem

variable {fs mid after : FileSystem} {p q : Path} {l : Location}

/-- A file system with directories made on the way of a path: each stands where nothing stood, and the path or one above it leads
there. -/
structure Paved (fs after : FileSystem) (p : Path) : Prop where
  standing : after.standing = fs.standing
  get? : ∀ l, after.get? l = fs.get? l ∨
    fs.get? l = none ∧ after.get? l = some .directory ∧ ∃ q : Path, q.IsAbove p ∧ after.resolve q = .ok (.directory l)

theorem Paved.refl (fs : FileSystem) (p : Path) : fs.Paved fs p := ⟨rfl, fun _ => Or.inl rfl⟩

/-- What stood before stands there still. -/
theorem Paved.stands (h : fs.Paved after p) {e : Entry} (he : fs.get? l = some e) : after.get? l = some e := by
  rcases h.get? l with hsame | ⟨hnone, -⟩
  · rw [hsame, he]
  · rw [hnone] at he
    cases he

theorem Paved.grown (h : fs.Paved after p) : Grown fs after where
  standing := h.standing
  directory := h.stands
  link := h.stands
  file hfile := ⟨_, h.stands hfile⟩

/-- The files are the same, with the same contents. -/
theorem Paved.file_iff (h : fs.Paved after p) {content : ByteArray} :
    after.get? l = some (.file content) ↔ fs.get? l = some (.file content) := by
  refine ⟨fun hfile => ?_, h.stands⟩
  rcases h.get? l with hsame | ⟨-, hmade, -⟩
  · rw [← hsame, hfile]
  · rw [hmade] at hfile
    cases hfile

theorem Paved.trans (h : fs.Paved mid p) (h' : mid.Paved after p) : fs.Paved after p := by
  refine ⟨h'.standing.trans h.standing, fun l => ?_⟩
  rcases h.get? l with hsame | ⟨hnone, hmade, q, habove, hleads⟩
  · rw [← hsame]
    exact h'.get? l
  · exact Or.inr ⟨hnone, h'.stands hmade, q, habove, h'.grown.resolve hleads⟩

theorem Paved.mono (h : fs.Paved after q) (hqp : q.IsAbove p) : fs.Paved after p := by
  refine ⟨h.standing, fun l => ?_⟩
  rcases h.get? l with hsame | ⟨hnone, hmade, r, habove, hleads⟩
  · exact Or.inl hsame
  · exact Or.inr ⟨hnone, hmade, r, habove.trans hqp, hleads⟩

/-- A file that could be read is read as before. -/
theorem Paved.readBytes (h : fs.Paved after q) {bytes : ByteArray} (hread : fs.readBytes p = .ok bytes) :
    after.readBytes p = .ok bytes := by
  unfold FileSystem.readBytes at hread ⊢
  split at hread
  · cases hread
  · rename_i hnull
    split at hread
    · rename_i l content hfile
      have hstands : fs.get? l = some (.file content) := stands_of_resolve hfile
      rw [if_neg hnull, h.grown.resolve_of_file hfile (h.stands hstands)]
      exact hread
    all_goals cases hread

/-- A directory is made in the directory that the path above leads to, under a name that fits and that nothing has. -/
theorem exists_of_makeOne {made : FileSystem} (h : fs.makeOne p = .ok made) :
    ∃ d n, fs.follow false p.parent.route = .ok (.directory d) ∧ p.parent.through [.into n] = p ∧ ¬ p.IsLong ∧ n.fits = true ∧
      fs.get? (d ++ [n]) = none ∧ made = fs.makeDirectory (d ++ [n]) := by
  unfold makeOne at h
  split at h
  · cases h
  split at h
  · cases h
  rename_i hshort
  split at h
  · rename_i n hlast
    split at h
    · rename_i d hd
      split at h
      · cases h
      rename_i hfits
      split at h
      · cases h
      rename_i hget
      exact ⟨d, n, hd, Path.parent_through_of_getLast? hlast, hshort, by simpa using hfits, by simpa using hget,
        (Except.ok.inj h).symm⟩
    all_goals cases h
  · split at h <;> cases h

/-- Where nothing stood there is then a directory, and the path leads there. -/
theorem paved_makeOne {made : FileSystem} (h : fs.makeOne p = .ok made) : fs.Paved made p := by
  obtain ⟨d, n, hd, hthrough, hshort, hfits, hnone, rfl⟩ := exists_of_makeOne h
  have htakes := takes_makeDirectory (isFree_of_absent (stands_of_follow hd) hnone hfits)
  have hsuits : (Change.directories [d ++ [n]]).Suits fs := by
    intro m e hm
    obtain ⟨hplace, rfl⟩ := Change.directories_eq_some.mp hm
    obtain rfl := List.mem_singleton.mp hplace
    exact Or.inl ⟨rfl, Or.inl hnone⟩
  have hmade : (fs.makeDirectory (d ++ [n])).get? (d ++ [n]) = some .directory := by
    rw [htakes.get?]
    simp [Change.directories]
  refine ⟨htakes.standing, fun m => ?_⟩
  rcases get?_makeDirectory_cases fs (d ++ [n]) m with hsame | ⟨rfl, -⟩
  · exact Or.inl hsame
  · have hleads := (follow_into false ((htakes.grown hsuits).follow hd) hfits).2.1 hmade
    rw [hthrough] at hleads
    exact Or.inr ⟨hnone, hmade, p, .refl p, (resolve_of_not_long hshort).trans hleads⟩

theorem paved_ensureOne (fs : FileSystem) (p : Path) : fs.Paved (fs.ensureOne p).files p := by
  unfold ensureOne
  split
  · rename_i made hmake
    exact paved_makeOne hmake
  · exact .refl fs p
  · split <;> exact .refl fs p
  · exact .refl fs p

/-- The making of a directory and all that are missing above it adds directories on the way, also where it stops. -/
theorem paved_ensureWithin (fs : FileSystem) (p : Path) (calls : Nat) : fs.Paved (fs.ensureWithin p calls).files p := by
  induction calls generalizing fs p with
  | zero => exact .refl fs p
  | succ calls ih =>
    have hone := paved_ensureOne fs p
    unfold ensureWithin
    split
    · rename_i left shown heq
      rw [heq] at hone
      have habove := (ih left p.parent).mono p.isAbove_parent
      split
      · exact hone
      · split
        · rename_i above hdone
          rw [hdone] at habove
          exact (hone.trans habove).trans (paved_ensureOne above p)
        · exact hone.trans habove
    · exact hone

theorem paved_ensure (fs : FileSystem) (p : Path) : fs.Paved (fs.ensure p).files p := paved_ensureWithin fs p makeLimit

end FileSystem

end ClassChain.Files

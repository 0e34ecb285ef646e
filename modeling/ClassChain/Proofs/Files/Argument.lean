import ClassChain.Proofs.Files.Reading
import ClassChain.Proofs.Files.Way

/-!
# Paths given as texts

A text that names a file as it stands names it as a path too (`resolve_of_resolveText`): a file is not reached over a slash or a
dot at the end (`walk_concat_ne_file`), and in its normal form a path is no longer than its text (`Path.utf8ByteSize_ofText_le`).
One who is about to make a file is led to the same file as one who reads it (`resolveForMaking_of_resolve`).
-/

namespace ClassChain.Files

/-! ## The size of a path -/

theorem utf8ByteSize_ofList_cons (c : Char) (cs : List Char) :
    (String.ofList (c :: cs)).utf8ByteSize = c.utf8Size + (String.ofList cs).utf8ByteSize := by
  rw [String.ofList_cons, String.utf8ByteSize_append, String.utf8ByteSize_singleton]

/-- The parts between slashes, with a slash each, are one slash longer than the text. -/
theorem sum_splitWhere (cs : List Char) :
    ((Text.splitWhere (· == '/') cs).map fun part => (String.ofList part).utf8ByteSize + 1).sum =
      (String.ofList cs).utf8ByteSize + 1 := by
  induction cs with
  | nil => simp [Text.splitWhere]
  | cons c cs ih =>
    rw [utf8ByteSize_ofList_cons, Text.splitWhere]
    split
    · rename_i hslash
      have hsize : c.utf8Size = 1 := by
        rw [beq_iff_eq.mp hslash]
        decide
      rw [List.map_cons, List.sum_cons, ih, hsize]
      simp
      omega
    · obtain ⟨part, parts, hparts⟩ := List.exists_cons_of_ne_nil (Text.splitWhere_ne_nil (· == '/') cs)
      rw [hparts, List.map_cons, List.sum_cons] at ih
      rw [hparts, Text.consFirst, List.map_cons, List.sum_cons, utf8ByteSize_ofList_cons]
      omega

theorem Step.text_of_ofText? {text : String} {step : Step} (h : Step.ofText? text = some step) : step.text = text := by
  unfold Step.ofText? at h
  split at h
  · rename_i hup
    cases h
    exact hup.symm
  · split at h
    · cases h
      rfl
    · cases h

/-- The steps that parts stand for are no longer than the parts. -/
theorem sum_steps_le (parts : List (List Char)) :
    ((parts.filterMap fun part => Step.ofText? (String.ofList part)).map fun step => step.text.utf8ByteSize + 1).sum ≤
      (parts.map fun part => (String.ofList part).utf8ByteSize + 1).sum := by
  induction parts with
  | nil => simp
  | cons part parts ih =>
    rw [List.map_cons, List.sum_cons, List.filterMap_cons]
    split
    · exact Nat.le_add_left_of_le ih
    · rename_i step hstep
      rw [List.map_cons, List.sum_cons, Step.text_of_ofText? hstep]
      exact Nat.add_le_add_left ih _

/-- The slashes before a text count beside its steps. -/
theorem slashes_add_sum_le (cs : List Char) :
    (cs.takeWhile (· == '/')).length +
        (((Text.splitWhere (· == '/') cs).filterMap fun part => Step.ofText? (String.ofList part)).map fun step =>
          step.text.utf8ByteSize + 1).sum ≤
      (String.ofList cs).utf8ByteSize + 1 := by
  induction cs with
  | nil => simp [Text.splitWhere, Step.ofText?, isName]
  | cons c cs ih =>
    by_cases hslash : (c == '/') = true
    · have hsize : c.utf8Size = 1 := by
        rw [beq_iff_eq.mp hslash]
        decide
      have hempty : Step.ofText? (String.ofList []) = none := by decide
      rw [List.takeWhile_cons, if_pos hslash, Text.splitWhere, if_pos hslash, List.filterMap_cons, List.length_cons,
        utf8ByteSize_ofList_cons, hsize]
      simp only [hempty]
      omega
    · rw [List.takeWhile_cons, if_neg hslash, ← sum_splitWhere]
      simpa using sum_steps_le _

theorem utf8ByteSize_anchor_le (text : String) :
    (Anchor.ofText text).text.utf8ByteSize ≤ (text.toList.takeWhile (· == '/')).length := by
  unfold Anchor.ofText
  split
  · simp [Anchor.text]
  · rename_i hlen
    rw [hlen]
    decide
  · rename_i hzero _
    have hone : Anchor.root.text.utf8ByteSize = 1 := by decide
    rw [hone]
    exact Nat.one_le_iff_ne_zero.mpr hzero

/-- A path in its normal form is no longer than the text that it was read from. -/
theorem Path.utf8ByteSize_ofText_le {text : String} (h : (Path.ofText text).steps ≠ []) :
    (Path.ofText text).text.utf8ByteSize ≤ text.utf8ByteSize := by
  have hsize := Path.utf8ByteSize_text h
  have hanchor := utf8ByteSize_anchor_le text
  have hsteps := slashes_add_sum_le text.toList
  rw [String.ofList_toList] at hsteps
  change _ + 1 = (Anchor.ofText text).text.utf8ByteSize + ((stepsOf text).map _).sum at hsize
  unfold stepsOf at hsize
  omega

theorem Path.hasNull_ofText {text : String} (h : '\x00' ∉ text.toList) : (Path.ofText text).hasNull = false := by
  rw [Bool.eq_false_iff]
  intro hnull
  obtain ⟨step, hstep, hmem⟩ := Path.hasNull_iff.mp hnull
  obtain ⟨part, hpart, hof⟩ := List.mem_filterMap.mp hstep
  rw [Step.text_of_ofText? hof, String.toList_ofList] at hmem
  have hflatten : '\x00' ∈ (Text.splitWhere (· == '/') text.toList).flatten := List.mem_flatten.mpr ⟨part, hpart, hmem⟩
  rw [Text.flatten_splitWhere] at hflatten
  exact h (List.mem_filter.mp hflatten).1

/-! ## Where a text leads -/

namespace FileSystem

variable {fs : FileSystem} {dir l : Location} {links : Nat} {content : ByteArray}

/-- No walk leads to a file by a last step that wants a directory. -/
theorem walk_concat_ne_file {steps : List Step} {step : Step} (hstep : step = .here ∨ step = .close) :
    fs.walk false links dir (steps ++ [step]) ≠ .ok (.file l content) := by
  cases hstop : stopOf (fs.walk false links dir steps) with
  | some cause =>
    rw [walk_append_of_stop hstop (by simp)]
    simp
  | none =>
    obtain ⟨e, he⟩ := stopOf_eq_none_iff.mp hstop
    obtain ⟨left, hleft⟩ := walk_append he
    have hend : fs.walk false left e [step] = .ok (.directory e) := by
      rcases hstep with rfl | rfl <;> rw [walk, walk]
    rw [hleft false [step] (by simp), hend]
    simp

/-- A walk to a file is the same for one who is about to make it. -/
theorem walk_making_of_file {steps : List Step} (h : fs.walk false links dir steps = .ok (.file l content)) :
    fs.walk true links dir steps = .ok (.file l content) := by
  fun_induction walk fs false links dir steps with
  | case1 => simp at h
  | case2 _ _ _ ih | case3 _ _ _ ih | case4 _ _ _ ih => rw [walk]; exact ih h
  | case5 | case6 | case7 | case8 | case10 | case12 => simp at h
  | case9 links dir n hfits content' hget _ =>
    rw [walk, if_neg (by simp), if_neg hfits, hget]
    exact h
  | case11 links dir n rest _ hfits hget ih =>
    have hclose : ¬ (true = true ∧ rest = [.close]) := by
      rintro ⟨-, rfl⟩
      exact absurd h (show fs.walk false links (dir ++ [n]) ([] ++ [.close]) ≠ _ from walk_concat_ne_file (Or.inr rfl))
    rw [walk, if_neg hclose, if_neg hfits, hget]
    exact ih h
  | case13 dir n rest _ hfits target hget links route ih =>
    have hclose : ¬ (true = true ∧ rest = [.close]) := by
      rintro ⟨-, rfl⟩
      exact walk_concat_ne_file (Or.inr rfl) h
    rw [walk, if_neg hclose, if_neg hfits, hget]
    exact ih h

/-- A path that leads to a file leads there for one who is about to make it. -/
theorem resolveForMaking_of_resolve {p : Path} (h : fs.resolve p = .ok (.file l content)) :
    fs.resolveForMaking p = .ok (.file l content) := by
  unfold resolve at h
  unfold resolveForMaking
  split at h
  · cases h
  · rename_i hshort
    rw [if_neg hshort]
    rw [follow_eq] at h ⊢
    split at h
    · rename_i hstart
      rw [if_pos hstart]
      exact walk_making_of_file h
    · cases h

/-- A file is written where a path leads to one. -/
theorem write_of_resolve {p : Path} (hnull : p.hasNull = false) (h : fs.resolve p = .ok (.file l content)) (bytes : ByteArray) :
    fs.write p bytes = .ok (fs.putFile l bytes) := by
  rw [write, hnull, if_neg (by simp), resolveForMaking_of_resolve h]

theorem lastSteps_cases (text : String) : lastSteps text = [] ∨ ∃ step, (step = .here ∨ step = .close) ∧ lastSteps text = [step] := by
  unfold lastSteps
  dsimp only
  split
  · exact Or.inr ⟨.here, Or.inl rfl, rfl⟩
  · exact Or.inr ⟨.here, Or.inl rfl, rfl⟩
  · split
    · exact Or.inl rfl
    · exact Or.inr ⟨.close, Or.inr rfl, rfl⟩

/-- A text that names a file as it stands leads to it as a path. -/
theorem resolve_of_resolveText {text : String} (h : fs.resolveText text = .ok (.file l content)) :
    fs.resolve (Path.ofText text) = .ok (.file l content) := by
  unfold resolveText at h
  split at h
  · cases h
  split at h
  · cases h
  rename_i hshort
  rw [follow_eq] at h
  split at h
  · rename_i hstart
    rcases lastSteps_cases text with hlast | ⟨step, hstep, hlast⟩
    · have hroute : Route.ofText text = (Path.ofText text).route := by
        rw [Route.ofText, hlast, List.append_nil]
        rfl
      have hsteps : (Path.ofText text).steps ≠ [] := by
        intro hnil
        rw [hroute, Path.route, hnil, walk] at h
        cases h
      have hsize := Path.utf8ByteSize_ofText_le hsteps
      rw [resolve_of_not_long (by omega), ← hroute, follow_eq, if_pos hstart]
      exact h
    · have hroute : (Route.ofText text).steps = stepsOf text ++ [step] := by rw [Route.ofText, hlast]
      rw [hroute] at h
      exact absurd h (walk_concat_ne_file hstep)
  · cases h

/-- A text that reads as the names of a file leads to it from where the program stands. -/
theorem resolveText_of_file {text : String} {names : List Name} (hne : text ≠ "") (hshort : text.utf8ByteSize ≤ pathLimit)
    (hroute : Route.ofText text = ((⟨.standing, []⟩ : Path).append names).route) (hstands : fs.get? fs.standing = some .directory)
    (hfile : fs.get? (fs.standing ++ names) = some (.file content)) :
    fs.resolveText text = .ok (.file (fs.standing ++ names) content) := by
  rw [resolveText, if_neg hne, if_neg (Nat.not_lt.mpr hshort), hroute]
  exact follow_append_of_file false (follow_standing hstands) hfile

end FileSystem

end ClassChain.Files

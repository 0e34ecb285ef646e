import ClassChain.Proofs.Rewrite.Failure
import ClassChain.Proofs.Rewrite.Written

/-!
# What a success leaves at the output

New code is written, and a file without any is copied. What was written is at the output. A copy is there too, unless the output is a
directory, which a copy goes into under the name of its source: the rewriting succeeds, and the output does not hold the file
(`copied_into_directory`). So a success means that the output holds what it should except in this case, and where the file could only be
read once the directories above the output were made (`output_of_success`).
-/

namespace ClassChain.Rewrite

open Files (Path FileSystem Location Name)
open Document (expandText unified)

section

variable {s : Settings} {fs : FileSystem} {input output : Path} {code : String} {r : Result}

/-- New code is the expansion of the text that is read. -/
theorem exists_text_of_hookCode? (h : hookCode? s fs input = some code) :
    ∃ text, fs.readText input = .ok text ∧ code = expandText (s.modeOf input.text) text := by
  rw [hookCode?, inspect] at h
  by_cases haccepts : s.accepts input.text = true
  · rw [if_pos haccepts] at h
    cases hread : fs.readText input with
    | error error =>
      rw [hread] at h
      cases h
    | ok text =>
      rw [hread] at h
      obtain ⟨-, -, hcode⟩ := Hook.code?_eq_some_iff.mp h
      exact ⟨text, rfl, hcode⟩
  · rw [if_neg haccepts] at h
    cases h

/-- Without new code a success has copied the file, once the directories above the output were made. -/
theorem copy_of_success (hne : output ≠ input) (h : (effort s false fs input output).error? = none)
    (hcode : hookCode? s fs input = none) :
    (fs.ensure output.parent).files.copy input output = .ok (effort s false fs input output).files := by
  obtain ⟨mid, hprepare, hwritten⟩ := writeOut_of_effort h
  rw [prepare, if_neg hne] at hprepare
  rw [hcode, writeOut, if_neg hne] at hwritten
  rw [hprepare]
  exact hwritten

/-- After a success new code is at the output. Without any, the output holds what the file held before exactly when it is no
directory and the file could be read before; and what is held by the file once the directories above the output are made is at the
output or, if this is a directory, in it. -/
theorem output_of_success (hne : output ≠ input) (hresult : (rewriteFile s false fs input (some output)).result = .ok r)
    (hok : r.status = true) :
    (r.changed = true → ∃ text, fs.readText input = .ok text ∧
      (rewriteFile s false fs input (some output)).files.readBytes output =
        .ok (Text.Utf8.encode (expandText (s.modeOf input.text) text))) ∧
    (r.changed = false →
      ((∃ bytes, fs.readBytes input = .ok bytes ∧
          (rewriteFile s false fs input (some output)).files.readBytes output = .ok bytes) ↔
        (rewriteFile s false fs input (some output)).files.isDirectory output = false ∧ ∃ bytes, fs.readBytes input = .ok bytes) ∧
      ∃ content, (fs.ensure output.parent).files.readBytes input = .ok content ∧
        (rewriteFile s false fs input (some output)).files.readBytes
          (if (rewriteFile s false fs input (some output)).files.isDirectory output then output.enter input else output) =
            .ok content) := by
  obtain ⟨hnone, rfl⟩ := effort_of_success hresult hok
  have hfiles := (rewriteFile_eq_effort s false fs input (some output)).1
  rw [Option.getD_some] at hnone hfiles
  constructor
  · intro hchanged
    obtain ⟨code, hcode⟩ := Option.isSome_iff_exists.mp hchanged
    obtain ⟨text, hread, rfl⟩ := exists_text_of_hookCode? hcode
    exact ⟨text, hread, readBytes_of_success hresult hok hcode⟩
  · intro hunchanged
    have hcode : hookCode? s fs input = none := Option.not_isSome_iff_eq_none.mp (ne_true_of_eq_false hunchanged)
    obtain ⟨hdir, content, hread, hcopied⟩ := FileSystem.readBytes_of_copy (copy_of_success hne hnone hcode)
    rw [← hfiles] at hdir hcopied
    rw [← hdir] at hcopied
    refine ⟨⟨?_, ?_⟩, content, hread, hcopied⟩
    · rintro ⟨bytes, hbefore, hafter⟩
      exact ⟨FileSystem.isDirectory_of_readBytes hafter, bytes, hbefore⟩
    · rintro ⟨hfile, bytes, hbefore⟩
      have hstill := (FileSystem.paved_ensure fs output.parent).readBytes hbefore
      obtain rfl : bytes = content := Except.ok.inj (hstill.symm.trans hread)
      rw [hfile, if_neg (by simp)] at hcopied
      exact ⟨bytes, hbefore, hcopied⟩

end

namespace Sample

/-- A file that the hook leaves alone, and a directory. -/
def occupied : FileSystem := (FileSystem.empty.putFile [first] (Text.Utf8.encode "z")).makeDirectory [output]

/-- The path of the file. -/
def firstPath : Path := ⟨.standing, [.into first]⟩

/-- A path into the directory. -/
def withinPath : Path := outputPath.append [second]

theorem follow_start : occupied.follow false (⟨.standing, []⟩ : Path).route = .ok (.directory []) :=
  FileSystem.follow_standing (by decide)

theorem follow_outputPath : occupied.follow false outputPath.route = .ok (.directory [output]) := by
  have hdir : occupied.get? [output] = some .directory := by decide
  exact FileSystem.follow_append_of_directory follow_start hdir

theorem readBytes_firstPath : occupied.readBytes firstPath = .ok (Text.Utf8.encode "z") := by
  have hget : occupied.get? [first] = some (.file (Text.Utf8.encode "z")) := by decide
  have hfile : occupied.follow false firstPath.route = .ok (.file [first] (Text.Utf8.encode "z")) :=
    FileSystem.follow_append_of_file false follow_start hget
  rw [FileSystem.readBytes_of_file (by decide) hfile, if_neg (by decide)]

theorem accepts_firstPath : ({} : Settings).accepts firstPath.text = true := by decide

/-- There is nothing to write out in the file. -/
theorem inspect_occupied : inspect {} occupied firstPath = .ok .unchanged := by
  have hplain : unified "z" = "z" := Document.unified_eq_self_iff.mpr (by decide)
  have hsame : expandText (({} : Settings).modeOf firstPath.text) "z" = "z" := by
    rw [expandText, Document.expand_of_not_mem (by decide), String.ofList_toList]
  rw [inspect_of_read accepts_firstPath readBytes_firstPath (Text.Utf8.decode_encode _), hplain, Hook.transform,
    if_pos accepts_firstPath]
  dsimp only
  rw [if_pos hsame]

/-- The file can be copied into the directory, under a name that nothing has. -/
theorem copy_occupied {target : Path} {n : Name} (hfits : n.fits = true) (hlegal : (outputPath.through [.into n]).Legal)
    (hnone : occupied.get? [output, n] = none)
    (hgoal : (if occupied.isDirectory target then target.enter firstPath else target) = outputPath.through [.into n]) :
    occupied.copy firstPath target = .ok (occupied.putFile [output, n] (Text.Utf8.encode "z")) := by
  have hlink : ∀ t, occupied.get? ([output] ++ [n]) ≠ some (.link t) := by simp [hnone]
  have hsame : occupied.same firstPath (outputPath.through [.into n]) = false := by
    have hlocate := FileSystem.locate?_into follow_outputPath hfits hlink
    rw [List.singleton_append, hnone] at hlocate
    simp [FileSystem.same, hlocate]
  have hwrite : occupied.write (outputPath.through [.into n]) (Text.Utf8.encode "z") =
      .ok (occupied.putFile [output, n] (Text.Utf8.encode "z")) := by
    refine (FileSystem.write_into follow_outputPath hfits hlegal hlink).trans (if_neg ?_)
    simp [FileSystem.isDirectoryAt, hnone]
  have hcopy := FileSystem.copy_of_ne hgoal (by decide) hlegal.not_null hsame readBytes_firstPath
  rw [hwrite] at hcopy
  exact hcopy

theorem isDirectory_withinPath : occupied.isDirectory withinPath = false := by
  have hnone : occupied.get? [output, second] = none := by decide
  refine (FileSystem.isDirectory_into follow_outputPath (n := second) (by decide) (by decide) (by simp [hnone])).trans ?_
  simp [FileSystem.isDirectoryAt, hnone]

theorem isDirectory_outputPath : occupied.isDirectory outputPath = true := by
  rw [FileSystem.isDirectory, FileSystem.resolve_of_not_long (by decide), follow_outputPath]
  decide

theorem copy_withinPath :
    occupied.copy firstPath withinPath = .ok (occupied.putFile [output, second] (Text.Utf8.encode "z")) := by
  refine copy_occupied (by decide) ⟨by decide, by decide⟩ (by decide) ?_
  rw [isDirectory_withinPath]
  rfl

theorem copy_outputPath :
    occupied.copy firstPath outputPath = .ok (occupied.putFile [output, first] (Text.Utf8.encode "z")) := by
  refine copy_occupied (by decide) ⟨by decide, by decide⟩ (by decide) ?_
  rw [isDirectory_outputPath]
  rfl

/-- Where the directories above the target are there, a copy is all that a rewriting makes, and it is told to have gone well. -/
theorem rewritten_occupied {target : Path} {d : Location} {after : FileSystem} (hne : target ≠ firstPath)
    (hlegal : target.parent.Legal) (hdir : occupied.follow false target.parent.route = .ok (.directory d))
    (hcopy : occupied.copy firstPath target = .ok after) :
    (rewriteFile {} false occupied firstPath (some target)).files = after ∧
      (rewriteFile {} false occupied firstPath (some target)).result = .ok ⟨firstPath, target, true, false, true, none⟩ := by
  have hone := FileSystem.ensureOne_of_directory hlegal hdir
  have hprepare : prepare occupied firstPath target = ⟨occupied, none⟩ := by
    rw [prepare, if_neg hne, FileSystem.ensure_of_ne_missing (by simp [hone]), hone]
  have hwritten : writeOut occupied firstPath target none = .ok after := by
    rw [writeOut, if_neg hne]
    exact hcopy
  have heffort : effort {} false occupied firstPath target = ⟨after, none⟩ := by
    rw [effort, inspect_occupied]
    exact (deliver_of_prepare hprepare).trans (by rw [hwritten])
  have hcode : hookCode? {} occupied firstPath = none := by
    rw [hookCode?, inspect_occupied]
    rfl
  obtain ⟨hfiles, hresult⟩ := @rewriteFile_of_done {} false occupied firstPath (some target) _ heffort
  refine ⟨hfiles, hresult.trans ?_⟩
  rw [hcode, accepts_firstPath]
  rfl

end Sample

theorem output_of_success_within :
    (Sample.withinPath ≠ Sample.firstPath ∧
      (rewriteFile {} false Sample.occupied Sample.firstPath (some Sample.withinPath)).result =
        .ok ⟨Sample.firstPath, Sample.withinPath, true, false, true, none⟩) ∧
    (rewriteFile {} false Sample.occupied Sample.firstPath (some Sample.withinPath)).files.readBytes Sample.withinPath =
      .ok (Text.Utf8.encode "z") := by
  have hne : Sample.withinPath ≠ Sample.firstPath := by decide
  obtain ⟨hfiles, hresult⟩ := Sample.rewritten_occupied hne ⟨by decide, by decide⟩ Sample.follow_outputPath
    Sample.copy_withinPath
  have hfile := (FileSystem.readBytes_of_copy Sample.copy_withinPath).1.trans Sample.isDirectory_withinPath
  have hunchanged := ((output_of_success hne hresult rfl).2 rfl).1
  rw [hfiles] at hunchanged ⊢
  obtain ⟨bytes, hbefore, hafter⟩ := hunchanged.mpr ⟨hfile, _, Sample.readBytes_firstPath⟩
  obtain rfl : Text.Utf8.encode "z" = bytes := Except.ok.inj (Sample.readBytes_firstPath.symm.trans hbefore)
  exact ⟨⟨hne, hresult⟩, hafter⟩

/-- A rewriting into a directory succeeds, and the output is the directory still. -/
theorem copied_into_directory :
    Sample.outputPath ≠ Sample.firstPath ∧ Sample.firstPath.hasNull = false ∧ Sample.outputPath.hasNull = false ∧
      Sample.occupied.readBytes Sample.firstPath = .ok (Text.Utf8.encode "z") ∧
      (rewriteFile {} false Sample.occupied Sample.firstPath (some Sample.outputPath)).result =
        .ok ⟨Sample.firstPath, Sample.outputPath, true, false, true, none⟩ ∧
      ∀ bytes, (rewriteFile {} false Sample.occupied Sample.firstPath (some Sample.outputPath)).files.readBytes Sample.outputPath ≠
        .ok bytes := by
  have hne : Sample.outputPath ≠ Sample.firstPath := by decide
  obtain ⟨hfiles, hresult⟩ := Sample.rewritten_occupied hne ⟨by decide, by decide⟩ Sample.follow_start
    Sample.copy_outputPath
  refine ⟨hne, by decide, by decide, Sample.readBytes_firstPath, hresult, fun bytes hread => ?_⟩
  have hdir := (FileSystem.readBytes_of_copy Sample.copy_outputPath).1.trans Sample.isDirectory_outputPath
  rw [hfiles] at hread
  cases hdir.symm.trans (FileSystem.isDirectory_of_readBytes hread)

end ClassChain.Rewrite

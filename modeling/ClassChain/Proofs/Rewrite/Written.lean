import ClassChain.Proofs.Document.LineEnd
import ClassChain.Proofs.Files.Argument
import ClassChain.Proofs.Rewrite.Answer

/-!
# What a rewriting writes, byte for byte

A file is read with every line end taken for a newline, and what the hook makes of it is written as it is. So after a rewriting that
succeeds with new code the target holds the expansion of the file with its line ends unified (`readBytes_of_rewriteFile`), and not the
expansion itself if a carriage return is in the file: such line ends are lost also where nothing was written out
(`line_ends_lost`).
-/

namespace ClassChain.Rewrite

open Files (Path FileSystem Location)
open Document (unified expandText)

section

variable {s : Settings} {fs : FileSystem} {input : Path} {output? : Option Path} {l : Location} {bytes : ByteArray}
  {text code : String} {r : Result}

theorem textOf_of_decode (h : Text.Utf8.decode bytes = .ok text) : FileSystem.textOf bytes = .ok (unified text) := by
  rw [FileSystem.textOf, h]
  rfl

/-- The hook is asked about a file with its line ends unified. -/
theorem inspect_of_read (haccepts : s.accepts input.text = true) (hread : fs.readBytes input = .ok bytes)
    (hdecode : Text.Utf8.decode bytes = .ok text) :
    inspect s fs input = .ok (Hook.transform s (unified text) input.text) := by
  rw [inspect, if_pos haccepts, FileSystem.readText, hread]
  simp only [bind, Except.bind, textOf_of_decode hdecode]
  rfl

/-- The hook has new code for a file exactly when its text is written out to another, and then this with its line ends unified. -/
theorem hookCode?_of_read (haccepts : s.accepts input.text = true) (hread : fs.readBytes input = .ok bytes)
    (hdecode : Text.Utf8.decode bytes = .ok text) :
    hookCode? s fs input =
      if expandText (s.modeOf input.text) text = text then none else some (unified (expandText (s.modeOf input.text) text)) := by
  rw [hookCode?, inspect_of_read haccepts hread hdecode]
  dsimp only
  split
  · rename_i hsame
    rw [Hook.transform, if_pos haccepts]
    dsimp only
    rw [if_pos (Document.expandText_unified_eq_self_iff.mpr hsame)]
    rfl
  · rename_i hchanged
    rw [Hook.code?_eq_some_iff]
    exact ⟨haccepts, mt Document.expandText_unified_eq_self_iff.mp hchanged, (Document.expandText_unified ..).symm⟩

/-- After a rewriting that succeeds the new code stands at the target. -/
theorem readBytes_of_success (hresult : (rewriteFile s false fs input output?).result = .ok r) (hok : r.status = true)
    (hcode : hookCode? s fs input = some code) :
    (rewriteFile s false fs input output?).files.readBytes (output?.getD input) = .ok (Text.Utf8.encode code) := by
  obtain ⟨mid, -, hwritten⟩ := writeOut_of_effort (effort_of_success hresult hok).1
  rw [hcode] at hwritten
  rw [(rewriteFile_eq_effort s false fs input output?).1]
  exact FileSystem.readBytes_of_write hwritten

/-- A rewriting that succeeds with new code leaves at the target the expansion with its line ends unified, byte for byte; this is the
expansion itself exactly when no carriage return is in the file. -/
theorem readBytes_of_rewriteFile (haccepts : s.accepts input.text = true) (hread : fs.readBytes input = .ok bytes)
    (hdecode : Text.Utf8.decode bytes = .ok text) (hchanged : expandText (s.modeOf input.text) text ≠ text)
    (hresult : (rewriteFile s false fs input output?).result = .ok r) (hok : r.status = true) :
    r.changed = true ∧
      (rewriteFile s false fs input output?).files.readBytes (output?.getD input) =
        .ok (Text.Utf8.encode (unified (expandText (s.modeOf input.text) text))) ∧
      (Text.Utf8.encode (unified (expandText (s.modeOf input.text) text)) =
          Text.Utf8.encode (expandText (s.modeOf input.text) text) ↔ '\r' ∉ text.toList) := by
  have hcode := hookCode?_of_read haccepts hread hdecode
  rw [if_neg hchanged] at hcode
  refine ⟨?_, readBytes_of_success hresult hok hcode, ?_⟩
  · rw [(effort_of_success hresult hok).2, answer, hcode]
    rfl
  · rw [Text.Utf8.encode_inj, Document.unified_eq_self_iff, Document.toList_expandText, Document.return_mem_expand_iff]

/-- In place a file without new code is left alone. -/
theorem effort_in_place_of_none {verdict : Hook.Verdict} (h : inspect s fs input = .ok verdict)
    (hcode : hookCode? s fs input = none) : effort s false fs input input = ⟨fs, none⟩ := by
  rw [hookCode?, h] at hcode
  rw [effort, h]
  simp only [Bool.false_eq_true, if_false, show verdict.code? = none from hcode, deliver, if_true]

/-- In place new code is written. -/
theorem effort_in_place_of_some {verdict : Hook.Verdict} {after : FileSystem} (h : inspect s fs input = .ok verdict)
    (hcode : hookCode? s fs input = some code) (hwrite : fs.write input (Text.Utf8.encode code) = .ok after) :
    effort s false fs input input = ⟨after, none⟩ := by
  rw [hookCode?, h] at hcode
  rw [effort, h]
  simp only [Bool.false_eq_true, if_false, show verdict.code? = some code from hcode, deliver, if_true, hwrite]

/-- In place a file that is text is always rewritten: it holds the expansion with its line ends unified, or what it held if there was
nothing to write out. -/
theorem rewriteFile_in_place (hnull : input.hasNull = false) (hfile : fs.resolve input = .ok (.file l bytes))
    (haccepts : s.accepts input.text = true) (hdecode : Text.Utf8.decode bytes = .ok text) :
    (rewriteFile s false fs input none).result =
        .ok ⟨input, input, true, decide (expandText (s.modeOf input.text) text ≠ text), true, none⟩ ∧
      (rewriteFile s false fs input none).files.readBytes input =
        .ok (if expandText (s.modeOf input.text) text = text then bytes
          else Text.Utf8.encode (unified (expandText (s.modeOf input.text) text))) := by
  have hread : fs.readBytes input = .ok bytes := by rw [FileSystem.readBytes, hnull, if_neg (by simp), hfile]
  have hcode := hookCode?_of_read haccepts hread hdecode
  by_cases hsame : expandText (s.modeOf input.text) text = text
  · rw [if_pos hsame] at hcode ⊢
    have heffort := effort_in_place_of_none (inspect_of_read haccepts hread hdecode) hcode
    obtain ⟨hfiles, hresult⟩ := @rewriteFile_of_done s false fs input none _ heffort
    rw [hfiles, hresult, hcode, haccepts]
    exact ⟨by simp [hsame], hread⟩
  · rw [if_neg hsame] at hcode ⊢
    have hwrite := FileSystem.write_of_resolve hnull hfile (Text.Utf8.encode (unified (expandText (s.modeOf input.text) text)))
    have heffort := effort_in_place_of_some (inspect_of_read haccepts hread hdecode) hcode hwrite
    obtain ⟨hfiles, hresult⟩ := @rewriteFile_of_done s false fs input none _ heffort
    rw [hfiles, hresult, hcode, haccepts]
    exact ⟨by simp [hsame], FileSystem.readBytes_of_write hwrite⟩

end

namespace Sample

/-- A file with a line end of two characters after a chain. -/
def returned : FileSystem := FileSystem.empty.putFile [first] (Text.Utf8.encode "h:x|y\r\nz\r\n")

/-- The path of the file. -/
def returnedPath : Path := ⟨.standing, [.into first]⟩

/-- How it is found, and what is made of it. -/
theorem evaluated_returned :
    returned.resolve returnedPath = .ok (.file [first] (Text.Utf8.encode "h:x|y\r\nz\r\n")) ∧
      ({} : Settings).accepts returnedPath.text = true ∧
      expandText (({} : Settings).modeOf returnedPath.text) "h:x|y\r\nz\r\n" = "h:x h:y\r\nz\r\n" ∧
      unified "h:x h:y\r\nz\r\n" = "h:x h:y\nz\n" := by
  have hstart : returned.follow false (⟨.standing, []⟩ : Path).route = .ok (.directory []) := FileSystem.follow_standing (by decide)
  have hget : returned.get? [first] = some (.file (Text.Utf8.encode "h:x|y\r\nz\r\n")) := by decide
  refine ⟨?_, by cbv, by cbv, by cbv⟩
  rw [FileSystem.resolve_of_not_long (by decide)]
  exact FileSystem.follow_append_of_file false hstart hget

theorem readBytes_returned : returned.readBytes returnedPath = .ok (Text.Utf8.encode "h:x|y\r\nz\r\n") := by
  rw [FileSystem.readBytes, evaluated_returned.1]
  rfl

theorem expandText_returned_ne :
    expandText (({} : Settings).modeOf returnedPath.text) "h:x|y\r\nz\r\n" ≠ "h:x|y\r\nz\r\n" := by
  rw [evaluated_returned.2.2.1]
  decide

/-- The file is rewritten, and holds other line ends. -/
theorem rewritten_returned :
    (rewriteFile {} false returned returnedPath none).result = .ok ⟨returnedPath, returnedPath, true, true, true, none⟩ ∧
      (rewriteFile {} false returned returnedPath none).files.readBytes returnedPath = .ok (Text.Utf8.encode "h:x h:y\nz\n") := by
  obtain ⟨hfile, haccepts, hexpanded, hunified⟩ := evaluated_returned
  have hrewritten := rewriteFile_in_place (by decide) hfile haccepts (Text.Utf8.decode_encode _)
  rw [if_neg expandText_returned_ne, decide_eq_true expandText_returned_ne, hexpanded, hunified] at hrewritten
  exact hrewritten

end Sample

theorem readBytes_of_rewriteFile_returned :
    (({} : Settings).accepts Sample.returnedPath.text = true ∧
      Sample.returned.readBytes Sample.returnedPath = .ok (Text.Utf8.encode "h:x|y\r\nz\r\n") ∧
      expandText (({} : Settings).modeOf Sample.returnedPath.text) "h:x|y\r\nz\r\n" ≠ "h:x|y\r\nz\r\n" ∧
      (rewriteFile {} false Sample.returned Sample.returnedPath none).result =
        .ok ⟨Sample.returnedPath, Sample.returnedPath, true, true, true, none⟩) ∧
    (rewriteFile {} false Sample.returned Sample.returnedPath none).files.readBytes Sample.returnedPath =
      .ok (Text.Utf8.encode "h:x h:y\nz\n") := by
  obtain ⟨-, haccepts, hexpanded, hunified⟩ := Sample.evaluated_returned
  have hresult := Sample.rewritten_returned.1
  have hwritten := (readBytes_of_rewriteFile haccepts Sample.readBytes_returned (Text.Utf8.decode_encode _)
    Sample.expandText_returned_ne hresult rfl).2.1
  rw [hexpanded, hunified] at hwritten
  exact ⟨⟨haccepts, Sample.readBytes_returned, Sample.expandText_returned_ne, hresult⟩, hwritten⟩

/-- Line ends of two characters do not stay as they are in a file in which a chain is written out. -/
theorem line_ends_lost :
    ({} : Settings).accepts Sample.returnedPath.text = true ∧
      Sample.returned.readBytes Sample.returnedPath = .ok (Text.Utf8.encode "h:x|y\r\nz\r\n") ∧
      expandText (({} : Settings).modeOf Sample.returnedPath.text) "h:x|y\r\nz\r\n" = "h:x h:y\r\nz\r\n" ∧
      (rewriteFile {} false Sample.returned Sample.returnedPath none).result =
        .ok ⟨Sample.returnedPath, Sample.returnedPath, true, true, true, none⟩ ∧
      (rewriteFile {} false Sample.returned Sample.returnedPath none).files.readBytes Sample.returnedPath ≠
        .ok (Text.Utf8.encode "h:x h:y\r\nz\r\n") := by
  obtain ⟨-, haccepts, hexpanded, -⟩ := Sample.evaluated_returned
  obtain ⟨hresult, hwritten⟩ := Sample.rewritten_returned
  refine ⟨haccepts, Sample.readBytes_returned, hexpanded, hresult, ?_⟩
  rw [hwritten]
  intro heq
  exact absurd (Text.Utf8.encode_inj.mp (Except.ok.inj heq)) (by decide)

end ClassChain.Rewrite

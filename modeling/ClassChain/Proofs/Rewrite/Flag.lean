import ClassChain.Proofs.Batch.Status
import ClassChain.Proofs.Rewrite.Failure
import ClassChain.Proofs.Rewrite.Success

/-!
# What it means that a file changed

A result says that a file changed when the hook had new code for it, and the code may yet fail to be written. So in a writing run the
flag tells of a file with expanded text at its output exactly when the rewriting succeeded, and where it failed no file holds anything
new (`Flagged`). The count of the files that changed is the number of those that were written and of those that failed with new code:
`changed_counts`. There are such ones (`changed_not_written`). A run that does not come to its end has no results, and shows no count.
-/

namespace ClassChain.Rewrite

open Files (Path FileSystem Name)
open Document (unified expandText)

section

variable {s : Settings} {fs after : FileSystem} {input output dir : Path} {output? outputDir? : Option Path} {r : Result}
  {results : List Result} {tasks : List Task}

/-- The text of a file that is rewritten, when it is written out to another. -/
def Expands (s : Settings) (fs : FileSystem) (input : Path) (text : String) : Prop :=
  s.accepts input.text = true ∧ fs.readText input = .ok text ∧ expandText (s.modeOf input.text) text ≠ text

/-- The expanded text of a file went to the output: the directories above another file than the input were there or were made, and then
the write was done. -/
def Wrote (s : Settings) (fs after : FileSystem) (input output : Path) : Prop :=
  ∃ text mid, Expands s fs input text ∧ prepare fs input output = ⟨mid, none⟩ ∧
    mid.write output (Text.Utf8.encode (expandText (s.modeOf input.text) text)) = .ok after

/-- What a result says of a rewriting that found one file system and left another. -/
structure Flagged (s : Settings) (fs after : FileSystem) (r : Result) : Prop where
  changed_iff : r.changed = true ↔ ∃ text, Expands s fs r.input text
  wrote_iff : r.changed = true ∧ r.status = true ↔ Wrote s fs after r.input r.output
  /-- After a failure every file is as it was. -/
  spared : r.status = false → ∀ l content, after.get? l = some (.file content) ↔ fs.get? l = some (.file content)

/-! ## One rewriting -/

/-- There is new code exactly for a text that is written out to another. -/
theorem hookCode?_eq_some_iff {code : String} :
    hookCode? s fs input = some code ↔ ∃ text, Expands s fs input text ∧ code = expandText (s.modeOf input.text) text := by
  constructor
  · intro h
    rw [hookCode?, inspect] at h
    by_cases haccepts : s.accepts input.text = true
    · rw [if_pos haccepts] at h
      cases hread : fs.readText input with
      | error error =>
        rw [hread] at h
        cases h
      | ok text =>
        rw [hread] at h
        obtain ⟨-, hne, hcode⟩ := Hook.code?_eq_some_iff.mp h
        exact ⟨text, ⟨haccepts, hread, hne⟩, hcode⟩
    · rw [if_neg haccepts] at h
      cases h
  · rintro ⟨text, ⟨haccepts, hread, hne⟩, hcode⟩
    rw [hookCode?, inspect, if_pos haccepts, hread]
    exact Hook.code?_eq_some_iff.mpr ⟨haccepts, hne, hcode⟩

theorem isSome_hookCode?_iff : (hookCode? s fs input).isSome = true ↔ ∃ text, Expands s fs input text := by
  rw [Option.isSome_iff_exists]
  constructor
  · rintro ⟨code, hcode⟩
    obtain ⟨text, htext, -⟩ := hookCode?_eq_some_iff.mp hcode
    exact ⟨text, htext⟩
  · rintro ⟨text, htext⟩
    exact ⟨_, hookCode?_eq_some_iff.mpr ⟨text, htext, rfl⟩⟩

/-- What was written is at the output. -/
theorem Wrote.readBytes (h : Wrote s fs after input output) :
    ∃ text, Expands s fs input text ∧
      after.readBytes output = .ok (Text.Utf8.encode (expandText (s.modeOf input.text) text)) := by
  obtain ⟨text, mid, htext, -, hwrite⟩ := h
  exact ⟨text, htext, FileSystem.readBytes_of_write hwrite⟩

/-- An effort that has new code to write and meets with no error is the writing of this code. -/
theorem wrote_effort_iff :
    (hookCode? s fs input).isSome = true ∧ (effort s false fs input output).error? = none ↔
      Wrote s fs (effort s false fs input output).files input output := by
  constructor
  · rintro ⟨hchanged, hnone⟩
    obtain ⟨code, hcode⟩ := Option.isSome_iff_exists.mp hchanged
    obtain ⟨text, htext, rfl⟩ := hookCode?_eq_some_iff.mp hcode
    obtain ⟨mid, hprepare, hwritten⟩ := writeOut_of_effort hnone
    rw [hcode] at hwritten
    exact ⟨text, mid, htext, hprepare, hwritten⟩
  · rintro ⟨text, mid, htext, hprepare, hwrite⟩
    have hcode := hookCode?_eq_some_iff.mpr ⟨text, htext, rfl⟩
    refine ⟨by rw [hcode]; rfl, ?_⟩
    unfold hookCode? at hcode
    cases hinspect : inspect s fs input with
    | error error =>
      rw [hinspect] at hcode
      cases hcode
    | ok verdict =>
      rw [hinspect] at hcode
      have heffort : effort s false fs input output = deliver fs input output verdict.code? := by
        rw [effort, hinspect]
        rfl
      rw [heffort, show verdict.code? = some _ from hcode, deliver_of_prepare hprepare, writeOut]
      rw [hwrite]

/-! ## Turns -/

/-- The expanded text of a file is written in its turn. -/
def Turn.Writes (s : Settings) (turn : Turn) : Prop := Wrote s turn.files (turn.left s false) turn.task.1 turn.output

/-- A result of a run is that of a turn. -/
structure Tells (s : Settings) (turn : Turn) (r : Result) : Prop where
  input : r.input = turn.task.1
  output : r.output = turn.output
  flagged : Flagged s turn.files (turn.left s false) r

theorem Tells.writes_iff {turn : Turn} (h : Tells s turn r) : turn.Writes s ↔ r.changed = true ∧ r.status = true := by
  rw [h.flagged.wrote_iff, Turn.Writes, h.input, h.output]

/-- What is told of a rewriting says this of it: a write that fails has changed nothing, so that only directories can be new. -/
theorem Turn.tells (s : Settings) (turn : Turn) : Tells s turn (turn.answer s false) := by
  have hfiles : turn.left s false = (turn.effort s false).files := (rewriteFile_eq_effort s false turn.files turn.task.1 turn.task.2).1
  refine ⟨rfl, rfl, isSome_hookCode?_iff, ?_, fun hfailed => ?_⟩
  · rw [hfiles]
    exact (and_congr_right' Option.isNone_iff_eq_none).trans wrote_effort_iff
  · obtain ⟨error, herror⟩ := Option.isSome_iff_exists.mp (Option.isNone_eq_false_iff.mp hfailed)
    rw [hfiles]
    exact fun l content => (paved_of_error herror).file_iff

open Classical in
/-- The files that are told to have changed are those that were written with expanded text, and those that failed with it. -/
theorem changedCount_eq {ts : List Turn} (h : List.Forall₂ (Tells s) ts results) :
    changedCount results =
      ts.countP (fun turn => decide (turn.Writes s)) + results.countP fun r => r.changed && !r.status := by
  unfold changedCount
  induction h with
  | nil => rfl
  | @cons turn r ts results htells _ ih =>
    have hwrites : decide (turn.Writes s) = (r.changed && r.status) := by
      rw [Bool.eq_iff_iff, decide_eq_true_iff, htells.writes_iff, Bool.and_eq_true]
    rw [List.countP_cons, List.countP_cons, List.countP_cons, ih, hwrites]
    cases r.changed <;> cases r.status <;> simp <;> omega

open Classical in
/-- In a writing run a result says that a file changed when there was new code for it. Without a failure this code was written and is at
the output, and a failure left all files as they were. So the number of changed files that a run over a tree shows is that of the files
written with expanded text, and of those that failed with it. There is no result only where directories are too many: then a rewriting
leaves all as it was, and a run over a tree shows no number. -/
theorem changed_counts (s : Settings) :
    (∀ (fs : FileSystem) (input : Path) (output? : Option Path), input.hasNull = false → (output?.getD input).hasNull = false →
      (∃ r, (rewriteFile s false fs input output?).result = .ok r ∧ r.input = input ∧ r.output = output?.getD input ∧
        Flagged s fs (rewriteFile s false fs input output?).files r ∧
        (r.changed = true → r.status = true → ∃ text, Expands s fs input text ∧
          (rewriteFile s false fs input output?).files.readBytes (output?.getD input) =
            .ok (Text.Utf8.encode (expandText (s.modeOf input.text) text)))) ∨
      Stops s false fs input (output?.getD input) ∧ (rewriteFile s false fs input output?).files = fs ∧
        (rewriteFile s false fs input output?).result = .error (.tooDeep .making)) ∧
    ∀ (choices : Batch.Choices) (fs : FileSystem) (inputDir outputDir : Path), choices.check = false →
      inputDir.hasNull = false → outputDir.hasNull = false →
      let outputDir? := if choices.inplace then none else some outputDir
      (∃ found results, findFiles s fs inputDir = .ok found ∧
        List.Forall₂ (Tells s) (turnsOf s false fs inputDir outputDir? found) results ∧
        (Batch.rewrite s choices fs inputDir outputDir).shown =
          [.table (summary s false results), .line (countsLine false results)] ∧
        changedCount results =
          (turnsOf s false fs inputDir outputDir? found).countP (fun turn => decide (turn.Writes s)) +
            results.countP fun r => r.changed && !r.status) ∨
      ∃ work, (rewriteTree s false fs inputDir outputDir?).result = .error (.tooDeep work) ∧
        (Batch.rewrite s choices fs inputDir outputDir).shown = [Batch.unexpectedLine (Files.Error.tooDeep work).message] := by
  constructor
  · intro fs input output? hinput houtput
    by_cases hstop : Stops s false fs input (output?.getD input)
    · exact .inr ⟨hstop, hstop.rewriteFile⟩
    · obtain ⟨-, hresult⟩ := @Turn.rewriteFile_eq s false ⟨fs, (input, output?)⟩ ⟨hinput, houtput⟩ hstop
      have htells := Turn.tells s ⟨fs, (input, output?)⟩
      exact .inl ⟨_, hresult, rfl, rfl, htells.flagged, fun hchanged hok => (htells.flagged.wrote_iff.mp ⟨hchanged, hok⟩).readBytes⟩
  · intro choices fs inputDir outputDir hcheck hinput houtput outputDir?
    have hout : ∀ out, outputDir? = some out → out.hasNull = false := Batch.hasNull_of_output? houtput choices.inplace
    have hends := rewriteTree_ends s false fs hinput hout
    generalize (rewriteTree s false fs inputDir outputDir?).files = after at hends
    generalize hresult : (rewriteTree s false fs inputDir outputDir?).result = result at hends ⊢
    rw [← hcheck] at hresult
    cases hends with
    | unlisted =>
      obtain ⟨files, notices, hrun⟩ := Batch.rewrite_of_tooDeep hresult
      exact .inr ⟨_, rfl, by rw [hrun]⟩
    | stopped =>
      obtain ⟨files, notices, hrun⟩ := Batch.rewrite_of_tooDeep hresult
      exact .inr ⟨_, rfl, by rw [hrun]⟩
    | @answered found results _ hfound _ hanswers _ =>
      obtain ⟨files, notices, hrun⟩ := Batch.rewrite_of_results hresult
      have htells : List.Forall₂ (Tells s) (turnsOf s false fs inputDir outputDir? found) results := by
        rw [hanswers]
        exact List.forall₂_map_right_iff.mpr (List.forall₂_same.mpr fun turn _ => Turn.tells s turn)
      exact .inl ⟨found, results, hfound.eq, htells, by rw [hrun, hcheck], changedCount_eq htells⟩

end

namespace Sample

/-- A file with a chain, and a directory. -/
def blocked : FileSystem := (FileSystem.empty.putFile [first] (Text.Utf8.encode "h:x|y")).makeDirectory [output]

theorem follow_blocked : blocked.follow false (⟨.standing, []⟩ : Path).route = .ok (.directory []) :=
  FileSystem.follow_standing (by decide)

theorem readText_blocked : blocked.readText firstPath = .ok "h:x|y" := by
  have hget : blocked.get? [first] = some (.file (Text.Utf8.encode "h:x|y")) := by decide
  have hfile : blocked.follow false firstPath.route = .ok (.file [first] (Text.Utf8.encode "h:x|y")) :=
    FileSystem.follow_append_of_file false follow_blocked hget
  have hread : blocked.readBytes firstPath = .ok (Text.Utf8.encode "h:x|y") := by
    rw [FileSystem.readBytes_of_file (by decide) hfile, if_neg (by decide)]
  have hunified : unified "h:x|y" = "h:x|y" := Document.unified_eq_self_iff.mpr (by decide)
  rw [FileSystem.readText, hread]
  exact (textOf_of_decode (Text.Utf8.decode_encode _)).trans (congrArg _ hunified)

theorem expands_blocked : Expands {} blocked firstPath "h:x|y" := by
  have hexpand : expandText (({} : Settings).modeOf firstPath.text) "h:x|y" = "h:x h:y" := by cbv
  exact ⟨accepts_firstPath, readText_blocked, by rw [hexpand]; decide⟩

/-- What is written to the directory is refused. -/
theorem effort_blocked : effort {} false blocked firstPath outputPath = ⟨blocked, some (.refused .isDirectory outputPath)⟩ := by
  have hparent : outputPath.parent = ⟨.standing, []⟩ := by decide
  have hone : blocked.ensureOne outputPath.parent = ⟨blocked, none⟩ := by
    rw [hparent]
    exact FileSystem.ensureOne_of_directory ⟨by decide, by decide⟩ follow_blocked
  have hprepare : prepare blocked firstPath outputPath = ⟨blocked, none⟩ := by
    rw [prepare, if_neg (by decide), FileSystem.ensure_of_ne_missing (by simp [hone]), hone]
  have hwrite (bytes : ByteArray) : blocked.write outputPath bytes = .error (.refused .isDirectory outputPath) := by
    have hlink : ∀ t, blocked.get? ([] ++ [output]) ≠ some (.link t) := by
      intro t
      rw [show blocked.get? ([] ++ [output]) = some .directory by decide]
      simp
    refine (FileSystem.write_into follow_blocked (by decide) ⟨by decide, by decide⟩ hlink).trans (if_pos ?_)
    decide
  have hcode := hookCode?_eq_some_iff.mpr ⟨_, expands_blocked, rfl⟩
  unfold hookCode? at hcode
  split at hcode
  · rename_i verdict hinspect
    rw [effort, hinspect]
    dsimp only
    rw [if_neg (by simp), hcode, deliver_of_prepare hprepare, writeOut, hwrite]
  · cases hcode

end Sample

/-- A file with new code fails at an output that is a directory: it is told to have changed, and nothing was written. -/
theorem changed_not_written :
    Sample.firstPath.hasNull = false ∧ Sample.outputPath.hasNull = false ∧
      (∃ message, (rewriteFile {} false Sample.blocked Sample.firstPath (some Sample.outputPath)).result =
        .ok ⟨Sample.firstPath, Sample.outputPath, true, true, false, some message⟩) ∧
      (rewriteFile {} false Sample.blocked Sample.firstPath (some Sample.outputPath)).files = Sample.blocked := by
  have hexpected : ∀ error,
      (effort {} false Sample.blocked Sample.firstPath ((some Sample.outputPath).getD Sample.firstPath)).error? = some error →
        error.isExpected = true := by
    rw [Option.getD_some, Sample.effort_blocked]
    rintro error ⟨⟩
    rfl
  obtain ⟨hfiles, hresult⟩ := rewriteFile_eq_answer hexpected
  have hchanged := isSome_hookCode?_iff.mpr ⟨_, Sample.expands_blocked⟩
  obtain ⟨message, hmessage⟩ : ∃ message, failureMessage? Sample.firstPath (.refused .isDirectory Sample.outputPath) =
      some message := ⟨_, rfl⟩
  rw [Option.getD_some, Sample.effort_blocked] at hfiles
  refine ⟨by decide, by decide, ⟨message, ?_⟩, hfiles⟩
  rw [hresult, Option.getD_some, answer, Sample.effort_blocked, hchanged, Sample.accepts_firstPath]
  exact congrArg (fun message? => Except.ok (Result.mk _ _ true true false message?)) hmessage

/-- In place the same file is told to have changed, and a run into the directory with trouble has a count. -/
theorem changed_counts_blocked :
    (Sample.firstPath.hasNull = false ∧ (Option.getD none Sample.firstPath).hasNull = false ∧
      Sample.inputPath.hasNull = false ∧ (Sample.inputPath.append [Sample.output]).hasNull = false) ∧
    (∃ r, (rewriteFile {} false Sample.blocked Sample.firstPath none).result = .ok r ∧ r.changed = true) ∧
    ∃ results,
      List.Forall₂ (Tells {}) (turnsOf {} false Sample.troubled Sample.inputPath (some (Sample.inputPath.append [Sample.output]))
        [[Sample.first], [Sample.second]]) results ∧
      (Batch.rewrite {} ⟨false, false⟩ Sample.troubled Sample.inputPath (Sample.inputPath.append [Sample.output])).shown =
        [.table (summary {} false results), .line (countsLine false results)] := by
  have hfirst : Sample.firstPath.hasNull = false := by decide
  have hinput : Sample.inputPath.hasNull = false := by decide
  have houtput : (Sample.inputPath.append [Sample.output]).hasNull = false := by decide
  obtain ⟨hone, hall⟩ := changed_counts {}
  have hchanged : ∃ r, (rewriteFile {} false Sample.blocked Sample.firstPath none).result = .ok r ∧ r.changed = true := by
    rcases hone Sample.blocked Sample.firstPath none hfirst hfirst with ⟨r, hresult, hin, -, hflagged, -⟩ | ⟨hstop, -⟩
    · exact ⟨r, hresult, hflagged.changed_iff.mpr ⟨_, hin ▸ Sample.expands_blocked⟩⟩
    · exact absurd rfl hstop.elsewhere
  rcases hall ⟨false, false⟩ Sample.troubled _ _ rfl hinput houtput with ⟨found, results, hfound, htells, hshown, -⟩ | ⟨work, herror, -⟩
  · obtain rfl : found = [[Sample.first], [Sample.second]] := Except.ok.inj (hfound.symm.trans Sample.findFiles_troubled)
    exact ⟨⟨hfirst, hfirst, hinput, houtput⟩, hchanged, results, htells, hshown⟩
  · obtain ⟨results, hresults⟩ := Sample.exists_results_troubled
    cases hresults.symm.trans herror

end ClassChain.Rewrite

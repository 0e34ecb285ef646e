import ClassChain.Proofs.Markup.Closing
import ClassChain.Proofs.Palette.File

/-!
# How expanding a file ends

The command prints the expansion of a file, or ends with a line that says what became of the file. The path stands in this line as it
is, and the line is markup (`Tells`). So the command succeeds for every file that is there, and refuses one that is no text, unless the
line has a fault: `expand_file_ends`. There is none if no tag in the path is taken. But a path that closes a style it does not stand in
ends the command without a status, in place only after the file was rewritten (`expand_file_escapes`).
-/

namespace ClassChain

namespace Palette

open Files (Path FileSystem Location)
open Document (unified expandText)
open Markup (Quiet Strays)

/-- How a run ends that tells a line: the line is shown and the run succeeds, or else the line has a fault, and that escapes. -/
structure Tells (done : Run) (line : Display) : Prop where
  shown : done.shown = if line.fault? = none then [line] else []
  exit : done.exit? = if line.fault? = none then some 0 else none
  escape : done.escape? = line.fault?.map .markup

/-- The line on a file of a kind that is not rewritten. -/
def passedLine (path : Path) : Display := .line (styled "bold yellow" ("Not an eligible file: " ++ path.text))

/-- The line on a file that was rewritten in place, and may have been changed. -/
def rewrittenLine (path : Path) (changed : Bool) : Display :=
  .line (styled "bold green" (path.text ++ ": " ++ if changed then "expanded" else "unchanged"))

/-- How the command ends for a path to a file with some bytes, which it rewrites in place or prints. -/
structure Ends (s : Settings) (fs : FileSystem) (path : Path) (bytes : ByteArray) (inPlace : Prop) (done : Run) : Prop where
  /-- A file of another kind is passed over. -/
  passed : s.accepts path.text = false → done.files = fs ∧ Tells done (passedLine path)
  /-- A file that is no text is refused. -/
  refused : s.accepts path.text = true → ∀ fault, Text.Utf8.decode bytes = .error fault →
    done.files = fs ∧ done.exit? = some 1 ∧ done.escape? = none ∧
      done.stderr = written ("Error: " ++ ("File is not valid UTF-8: " ++ path.text) ++ "\n")
  /-- Any other is printed, -/
  printed : s.accepts path.text = true → ∀ text, Text.Utf8.decode bytes = .ok text → ¬ inPlace →
    done.files = fs ∧ done.exit? = some 0 ∧ done.escape? = none
  /-- or it holds its expansion at the end. -/
  rewritten : s.accepts path.text = true → ∀ text, Text.Utf8.decode bytes = .ok text → inPlace →
    done.files.readBytes path = .ok (if expandText (s.modeOf path.text) text = text then bytes
      else Text.Utf8.encode (unified (expandText (s.modeOf path.text) text))) ∧
    Tells done (rewrittenLine path (expandText (s.modeOf path.text) text ≠ text))

section

variable {s : Settings} {fs : FileSystem} {flags args : List String} {path : String} {p : Path} {l : Location}
  {bytes : ByteArray} {inPlace : Prop} {done : Run} {line : Display}

/-! ## Telling a line -/

/-- What ends with a line tells it, if it showed nothing before. -/
theorem tells_conclude {run : Run} (hshown : run.shown = []) (hexit : run.exit? = none) (hescape : run.escape? = none)
    (line : Display) : Tells (run.conclude [line] (some 0)) line := by
  cases hfault : line.fault? with
  | none =>
    have hconclude : run.conclude [line] (some 0) = { run with shown := [line], exit? := some 0 } := by
      simp [Run.conclude, showAll, hfault, hshown]
    rw [hconclude]
    exact ⟨by rw [hfault, if_pos rfl], by rw [hfault, if_pos rfl], by rw [hfault]; exact hescape⟩
  | some fault =>
    have hconclude : run.conclude [line] (some 0) = { run with shown := [], escape? := some (.markup fault) } := by
      simp [Run.conclude, showAll, hfault, hshown]
    rw [hconclude]
    exact ⟨by rw [hfault, if_neg (by simp)], by rw [hfault, if_neg (by simp)]; exact hexit, by rw [hfault]; rfl⟩

theorem Tells.of_none (h : Tells done line) (hfault : line.fault? = none) : done.exit? = some 0 ∧ done.escape? = none := by
  rw [h.exit, h.escape, hfault]
  exact ⟨if_pos rfl, rfl⟩

theorem Tells.of_some (h : Tells done line) {fault : Markup.Fault} (hfault : line.fault? = some fault) :
    done.exit? = none ∧ done.escape? = some (.markup fault) := by
  rw [h.exit, h.escape, hfault]
  exact ⟨if_neg (by simp), rfl⟩

/-- What is written besides does not matter. -/
theorem Tells.with_output (h : Tells done line) (stdout stderr : String) : Tells { done with stdout, stderr } line :=
  ⟨h.shown, h.exit, h.escape⟩

/-! ## The two lines -/

theorem bland_notice : Markup.Bland "Not an eligible file: ".toList := by decide

theorem calm_state (changed : Bool) : Markup.Calm (": " ++ if changed then "expanded" else "unchanged").toList := by
  have hhead : (": " ++ if changed then "expanded" else "unchanged").toList.head? = some ':' := by cases changed <;> decide
  refine ⟨fun c hc => ?_, by cases changed <;> decide⟩
  obtain rfl : ':' = c := Option.some.inj (hhead.symm.trans hc)
  decide

theorem toList_state (path : Path) (changed : Bool) :
    (path.text ++ ": " ++ if changed then "expanded" else "unchanged").toList =
      path.text.toList ++ (": " ++ if changed then "expanded" else "unchanged").toList := by
  simp only [String.toList_append, List.append_assoc]

theorem passedLine_of_quiet (h : Quiet p.text.toList) : (passedLine p).fault? = none := by
  have hstyle : Markup.IsStyle "bold yellow" := Markup.isStyle_bold "yellow" (by decide)
  have hquiet : Quiet ("Not an eligible file: " ++ p.text).toList := by
    rw [String.toList_append]
    exact h.bland_append bland_notice
  exact Display.fault?_eq_none fun markup hmem => List.mem_singleton.mp hmem ▸ Markup.sound_styled hstyle hquiet

theorem rewrittenLine_of_quiet (h : Quiet p.text.toList) (changed : Bool) : (rewrittenLine p changed).fault? = none := by
  have hstyle : Markup.IsStyle "bold green" := Markup.isStyle_bold "green" (by decide)
  have hquiet : Quiet (p.text ++ ": " ++ if changed then "expanded" else "unchanged").toList := by
    rw [toList_state]
    exact h.append (calm_state changed) (by cases changed <;> decide)
  exact Display.fault?_eq_none fun markup hmem => List.mem_singleton.mp hmem ▸ Markup.sound_styled hstyle hquiet

theorem passedLine_of_strays (h : Strays "bold yellow" p.text.toList) : ∃ fault, (passedLine p).fault? = some fault := by
  have hstyle : Markup.IsStyle "bold yellow" := Markup.isStyle_bold "yellow" (by decide)
  have hstrays : Strays "bold yellow" ("Not an eligible file: " ++ p.text).toList := by
    rw [String.toList_append]
    exact h.bland_append bland_notice
  obtain ⟨fault, hread⟩ := Markup.exists_fault_of_strays hstyle hstrays
  exact ⟨fault, Display.fault?_of_read rfl hread⟩

theorem rewrittenLine_of_strays (h : Strays "bold green" p.text.toList) (changed : Bool) :
    ∃ fault, (rewrittenLine p changed).fault? = some fault := by
  have hstyle : Markup.IsStyle "bold green" := Markup.isStyle_bold "green" (by decide)
  have hstrays : Strays "bold green" (p.text ++ ": " ++ if changed then "expanded" else "unchanged").toList := by
    rw [toList_state]
    exact h.append (calm_state changed)
  obtain ⟨fault, hread⟩ := Markup.exists_fault_of_strays hstyle hstrays
  exact ⟨fault, Display.fault?_of_read rfl hread⟩

/-! ## Reaching the end -/

theorem readText_of_undecodable {fault : Text.Utf8.Fault} (hread : fs.readBytes p = .ok bytes)
    (hdecode : Text.Utf8.decode bytes = .error fault) : fs.readText p = .error (.undecodable fault) := by
  rw [FileSystem.readText, hread]
  change FileSystem.textOf bytes = _
  rw [FileSystem.textOf, hdecode]

/-- A file that is no text is refused by both ways of expanding it. -/
theorem expandFile_of_undecodable {fault : Text.Utf8.Fault} (haccepts : s.accepts p.text = true)
    (hread : fs.readBytes p = .ok bytes) (hdecode : Text.Utf8.decode bytes = .error fault) (inPlace : Bool) :
    expandFile s fs inPlace p =
      fail { files := fs, notices := [.failed ("File is not valid UTF-8: " ++ p.text)] } ("File is not valid UTF-8: " ++ p.text) := by
  have htext := readText_of_undecodable hread hdecode
  have hinspect : Rewrite.inspect s fs p = .error (.undecodable fault) := by
    rw [Rewrite.inspect, if_pos haccepts, htext]
    rfl
  cases inPlace with
  | false => simp [expandFile, haccepts, printFile, htext]
  | true =>
    have hne : "File is not valid UTF-8: " ++ p.text ≠ "" := fun heq => by simpa using congrArg String.toList heq
    simp [expandFile, haccepts, writeFile, Rewrite.rewriteFile, hinspect, Rewrite.Outcome.fail, Rewrite.failureMessage?,
      Option.filter, hne]

/-- What is printed is printed to the end. -/
theorem printFile_of_readText {text : String} (htext : fs.readText p = .ok text) :
    (printFile s fs p).files = fs ∧ (printFile s fs p).exit? = some 0 ∧ (printFile s fs p).escape? = none := by
  rw [printFile, htext]
  exact ⟨rfl, rfl, rfl⟩

/-- What is rewritten in place is told of. -/
theorem tells_writeFile {text : String} (haccepts : s.accepts p.text = true) (hnull : p.hasNull = false)
    (hfile : fs.resolve p = .ok (.file l bytes)) (hdecode : Text.Utf8.decode bytes = .ok text) :
    Tells (writeFile s fs p) (rewrittenLine p (expandText (s.modeOf p.text) text ≠ text)) := by
  have hresult := (Rewrite.rewriteFile_in_place hnull hfile haccepts hdecode).1
  unfold writeFile
  dsimp only
  rw [hresult]
  exact tells_conclude rfl rfl rfl _

/-- However the command is told of a file that is there, this is how it ends. -/
theorem ends_of_read (stdin : ByteArray) (hargs : read fileCommand.flags true args = .ok (flags, [path])) (hhelp : "--help" ∉ flags)
    (hnull : '\x00' ∉ path.toList) (hfile : fs.resolveText path = .ok (.file l bytes)) :
    Ends s fs (Path.ofText path) bytes ("--write" ∈ flags) (run s stdin ("expand" :: "file" :: args) fs) := by
  have hnone : (Path.ofText path).hasNull = false := Path.hasNull_ofText hnull
  have hresolve : fs.resolve (Path.ofText path) = .ok (.file l bytes) := FileSystem.resolve_of_resolveText hfile
  have hread : fs.readBytes (Path.ofText path) = .ok bytes := by
    rw [FileSystem.readBytes, hnone, if_neg (by simp), hresolve]
  rw [run_expand_file, runFile_eq_expandFile hargs hhelp hnull hfile]
  refine ⟨fun haccepts => ?_, fun haccepts fault hdecode => ?_, fun haccepts text hdecode hplain => ?_,
    fun haccepts text hdecode hinPlace => ?_⟩
  · have htells : Tells (({ files := fs } : Run).conclude [passedLine (Path.ofText path)] (some 0)) (passedLine (Path.ofText path)) :=
      tells_conclude rfl rfl rfl _
    have hexpand : expandFile s fs (decide ("--write" ∈ flags)) (Path.ofText path) =
        ({ files := fs } : Run).conclude [passedLine (Path.ofText path)] (some 0) := by
      simp [expandFile, haccepts, passedLine]
    rw [hexpand]
    exact ⟨files_conclude _ _ _, htells.with_output _ _⟩
  · rw [expandFile_of_undecodable haccepts hread hdecode]
    exact ⟨rfl, rfl, rfl, rfl⟩
  · have hexpand : expandFile s fs (decide ("--write" ∈ flags)) (Path.ofText path) = printFile s fs (Path.ofText path) := by
      simp [expandFile, haccepts, hplain]
    have htext : fs.readText (Path.ofText path) = .ok (unified text) := by
      rw [FileSystem.readText, hread]
      exact Rewrite.textOf_of_decode hdecode
    have hprinted := printFile_of_readText (s := s) htext
    rw [hexpand]
    generalize printFile s fs (Path.ofText path) = done at hprinted ⊢
    exact hprinted
  · have hexpand : expandFile s fs (decide ("--write" ∈ flags)) (Path.ofText path) = writeFile s fs (Path.ofText path) := by
      simp [expandFile, haccepts, hinPlace]
    have htells := tells_writeFile haccepts hnone hresolve hdecode
    have hcontent := (Rewrite.rewriteFile_in_place hnone hresolve haccepts hdecode).2
    rw [← files_writeFile] at hcontent
    rw [hexpand]
    generalize writeFile s fs (Path.ofText path) = done at hcontent htells ⊢
    exact ⟨hcontent, htells.with_output _ _⟩

/-- Where no tag in the path is taken, the command succeeds, or refuses what is no text. -/
theorem Ends.of_quiet (h : Ends s fs p bytes inPlace done) (hquiet : Quiet p.text.toList) :
    done.escape? = none ∧
      (done.exit? = some 0 ∨
        done.exit? = some 1 ∧ s.accepts p.text = true ∧ ∃ fault, Text.Utf8.decode bytes = .error fault) := by
  cases haccepts : s.accepts p.text with
  | false =>
    obtain ⟨hexit, hescape⟩ := (h.passed haccepts).2.of_none (passedLine_of_quiet hquiet)
    exact ⟨hescape, .inl hexit⟩
  | true =>
    cases hdecode : Text.Utf8.decode bytes with
    | error fault =>
      obtain ⟨-, hexit, hescape, -⟩ := h.refused haccepts fault hdecode
      exact ⟨hescape, .inr ⟨hexit, rfl, fault, rfl⟩⟩
    | ok text =>
      by_cases hinPlace : inPlace
      · obtain ⟨hexit, hescape⟩ :=
          (h.rewritten haccepts text hdecode hinPlace).2.of_none (rewrittenLine_of_quiet hquiet _)
        exact ⟨hescape, .inl hexit⟩
      · obtain ⟨-, hexit, hescape⟩ := h.printed haccepts text hdecode hinPlace
        exact ⟨hescape, .inl hexit⟩

/-- Where the path closes another style than the one in which the line is told, the command ends without a status. -/
theorem Ends.of_strays (h : Ends s fs p bytes inPlace done)
    (hstrays : s.accepts p.text = false ∧ Strays "bold yellow" p.text.toList ∨
      s.accepts p.text = true ∧ (∃ text, Text.Utf8.decode bytes = .ok text) ∧ inPlace ∧ Strays "bold green" p.text.toList) :
    done.exit? = none ∧ ∃ fault, done.escape? = some (.markup fault) := by
  rcases hstrays with ⟨haccepts, hstrays⟩ | ⟨haccepts, ⟨text, hdecode⟩, hinPlace, hstrays⟩
  · obtain ⟨fault, hfault⟩ := passedLine_of_strays hstrays
    obtain ⟨hexit, hescape⟩ := (h.passed haccepts).2.of_some hfault
    exact ⟨hexit, fault, hescape⟩
  · obtain ⟨fault, hfault⟩ := rewrittenLine_of_strays hstrays (expandText (s.modeOf p.text) text ≠ text)
    obtain ⟨hexit, hescape⟩ := (h.rewritten haccepts text hdecode hinPlace).2.of_some hfault
    exact ⟨hexit, fault, hescape⟩

/-- How the command ends for a path to a file: a file of another kind is told of, one that is no text is refused, and any other is
printed, or rewritten and told of. It succeeds, or refuses what is no text, if no tag in the path is taken; but it ends without a status
when it tells of a path that closes another style, also where the file was rewritten before. -/
theorem expand_file_ends (stdin : ByteArray) (hargs : read fileCommand.flags true args = .ok (flags, [path]))
    (hhelp : "--help" ∉ flags) (hnull : '\x00' ∉ path.toList) (hfile : fs.resolveText path = .ok (.file l bytes)) :
    let p := Path.ofText path
    let done := run s stdin ("expand" :: "file" :: args) fs
    Ends s fs p bytes ("--write" ∈ flags) done ∧
      (Quiet p.text.toList → done.escape? = none ∧
        (done.exit? = some 0 ∨
          done.exit? = some 1 ∧ s.accepts p.text = true ∧ ∃ fault, Text.Utf8.decode bytes = .error fault)) ∧
      (s.accepts p.text = false ∧ Strays "bold yellow" p.text.toList ∨
          s.accepts p.text = true ∧ (∃ text, Text.Utf8.decode bytes = .ok text) ∧ "--write" ∈ flags ∧
            Strays "bold green" p.text.toList →
        done.exit? = none ∧ ∃ fault, done.escape? = some (.markup fault)) := by
  intro p done
  have hends : Ends s fs p bytes ("--write" ∈ flags) done := ends_of_read stdin hargs hhelp hnull hfile
  exact ⟨hends, hends.of_quiet, hends.of_strays⟩

end

namespace Sample

open Files (Name)

/-- A file with a chain. -/
def chained : FileSystem := FileSystem.empty.putFile [Rewrite.Sample.first] (Text.Utf8.encode "h:x|y")

/-- A directory, and names of files that make a tag with its own. -/
def bracket : Name := ⟨"a[", by decide⟩

def page : Name := ⟨"x].md", by decide⟩

def note : Name := ⟨"x]", by decide⟩

/-- A file with a chain in that directory. -/
def bracketed (name : Name) : FileSystem :=
  (FileSystem.empty.makeDirectory [bracket]).putFile [bracket, name] (Text.Utf8.encode "h:x|y")

theorem route_page : Files.Route.ofText "a[/x].md" = ((⟨.standing, []⟩ : Path).append [bracket, page]).route := by decide

theorem route_note : Files.Route.ofText "a[/x]" = ((⟨.standing, []⟩ : Path).append [bracket, note]).route := by decide

/-- Such a path strays in any style. -/
theorem strays_closing {style : String} (h : "x" ≠ style) (rest : List Char) :
    Strays style (['a'] ++ '[' :: (['/', 'x'] ++ ']' :: rest)) :=
  Strays.bland_append (by decide)
    ⟨[], 0, ['/', 'x'], Markup.pieces rest, Markup.pieces_of_tag Markup.Sample.isBody_closing 0 rest, by simp, by decide,
      ['x'], none, "x", rfl, by decide, Markup.Sample.tagName_x, h⟩

end Sample

theorem expand_file_ends_chained :
    (read fileCommand.flags true ["--write", "a.md"] = .ok (["--write"], ["a.md"]) ∧ "--help" ∉ ["--write"] ∧
      '\x00' ∉ "a.md".toList ∧
      Sample.chained.resolveText "a.md" = .ok (.file [Rewrite.Sample.first] (Text.Utf8.encode "h:x|y"))) ∧
    (run {} .empty ["expand", "file", "--write", "a.md"] Sample.chained).files.readBytes (Path.ofText "a.md") =
      .ok (Text.Utf8.encode "h:x h:y") ∧
    (run {} .empty ["expand", "file", "--write", "a.md"] Sample.chained).escape? = none := by
  have hhelp : "--help" ∉ ["--write"] := by decide
  have hnull : '\x00' ∉ "a.md".toList := by decide
  have hfile : Sample.chained.resolveText "a.md" = .ok (.file [Rewrite.Sample.first] (Text.Utf8.encode "h:x|y")) :=
    FileSystem.resolveText_of_file (by decide) (by decide) Sample.route_first (by decide) (by decide)
  have hexpand : expandText (({} : Settings).modeOf (Path.ofText "a.md").text) "h:x|y" = "h:x h:y" := by cbv
  have hunified : unified "h:x h:y" = "h:x h:y" := by cbv
  have hquiet : Quiet (Path.ofText "a.md").text.toList := Markup.quiet_of_not_mem (by decide)
  obtain ⟨hends, hsucceeds, -⟩ := expand_file_ends (s := {}) .empty Sample.read_writing hhelp hnull hfile
  have hcontent := (hends.rewritten Sample.accepts _ (Text.Utf8.decode_encode _) (by decide)).1
  rw [hexpand, if_neg (by decide), hunified] at hcontent
  exact ⟨⟨Sample.read_writing, hhelp, hnull, hfile⟩, hcontent, (hsucceeds hquiet).1⟩

/-- A path that makes a tag of a directory and a file ends the command without a status, whether the file is passed over or rewritten.
Then it has been rewritten. -/
theorem expand_file_escapes :
    ((Sample.bracketed Sample.page).resolveText "a[/x].md" = .ok (.file [Sample.bracket, Sample.page] (Text.Utf8.encode "h:x|y")) ∧
      (run {} .empty ["expand", "file", "--write", "a[/x].md"] (Sample.bracketed Sample.page)).files.readBytes (Path.ofText "a[/x].md") =
        .ok (Text.Utf8.encode "h:x h:y") ∧
      (run {} .empty ["expand", "file", "--write", "a[/x].md"] (Sample.bracketed Sample.page)).exit? = none ∧
      ∃ fault, (run {} .empty ["expand", "file", "--write", "a[/x].md"] (Sample.bracketed Sample.page)).escape? =
        some (.markup fault)) ∧
    (Sample.bracketed Sample.note).resolveText "a[/x]" = .ok (.file [Sample.bracket, Sample.note] (Text.Utf8.encode "h:x|y")) ∧
      (run {} .empty ["expand", "file", "a[/x]"] (Sample.bracketed Sample.note)).exit? = none ∧
      ∃ fault, (run {} .empty ["expand", "file", "a[/x]"] (Sample.bracketed Sample.note)).escape? = some (.markup fault) := by
  constructor
  · have hplain : read fileCommand.flags true ["a[/x].md"] = .ok ([], ["a[/x].md"]) :=
      read_value (by rw [isOption_eq]; decide) (by decide)
    have hfile : (Sample.bracketed Sample.page).resolveText "a[/x].md" =
        .ok (.file [Sample.bracket, Sample.page] (Text.Utf8.encode "h:x|y")) :=
      FileSystem.resolveText_of_file (by decide) (by decide) Sample.route_page (by decide) (by decide)
    have haccepts : ({} : Settings).accepts (Path.ofText "a[/x].md").text = true := by cbv
    have hexpand : expandText (({} : Settings).modeOf (Path.ofText "a[/x].md").text) "h:x|y" = "h:x h:y" := by cbv
    have hunified : unified "h:x h:y" = "h:x h:y" := by cbv
    have hstrays : Strays "bold green" (Path.ofText "a[/x].md").text.toList := by
      have htext : (Path.ofText "a[/x].md").text.toList = ['a'] ++ '[' :: (['/', 'x'] ++ ']' :: ".md".toList) := by cbv
      rw [htext]
      exact Sample.strays_closing (by decide) _
    have hends := ends_of_read (s := {}) .empty (Sample.read_writing_of hplain) (by decide) (by decide) hfile
    have hcontent := (hends.rewritten haccepts _ (Text.Utf8.decode_encode _) (by decide)).1
    rw [hexpand, if_neg (by decide), hunified] at hcontent
    exact ⟨hfile, hcontent, hends.of_strays (.inr ⟨haccepts, ⟨_, Text.Utf8.decode_encode _⟩, by decide, hstrays⟩)⟩
  · have hplain : read fileCommand.flags true ["a[/x]"] = .ok ([], ["a[/x]"]) :=
      read_value (by rw [isOption_eq]; decide) (by decide)
    have hfile : (Sample.bracketed Sample.note).resolveText "a[/x]" =
        .ok (.file [Sample.bracket, Sample.note] (Text.Utf8.encode "h:x|y")) :=
      FileSystem.resolveText_of_file (by decide) (by decide) Sample.route_note (by decide) (by decide)
    have haccepts : ({} : Settings).accepts (Path.ofText "a[/x]").text = false := by cbv
    have hstrays : Strays "bold yellow" (Path.ofText "a[/x]").text.toList := by
      have htext : (Path.ofText "a[/x]").text.toList = ['a'] ++ '[' :: (['/', 'x'] ++ ']' :: []) := by cbv
      rw [htext]
      exact Sample.strays_closing (by decide) _
    have hends := ends_of_read (s := {}) .empty hplain (by decide) (by decide) hfile
    exact ⟨hfile, hends.of_strays (.inl ⟨haccepts, hstrays⟩)⟩

end Palette

end ClassChain

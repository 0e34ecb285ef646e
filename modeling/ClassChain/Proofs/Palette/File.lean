import ClassChain.Palette.Run
import ClassChain.Proofs.Rewrite.Written

/-!
# Showing and writing the expansion of a file

The palette has two ways to expand a file: to print the expansion and to write it. Both take the file with its line ends unified,
and what is printed goes without control sequences. `expand_file_prints_and_writes` says what each comes to for an existing file of
a kind that is rewritten, and when the bytes are the same: when no control sequence stands in the expansion, and a file that stays
as it is has no carriage return. `printed_ne_written` has a file of each kind for which they are not.
-/

namespace ClassChain.Palette

open Files (Path FileSystem Location)
open Document (unified expandText)

section

variable {s : Settings} {fs : FileSystem} {flags args : List String} {path text : String} {l : Location}
  {bytes : ByteArray}

/-! ## Reaching a command -/

/-- An option begins with a dash and is more than that. -/
theorem isOption_eq (arg : String) : isOption arg = (decide ("-".toList <+: arg.toList) && arg != "-") := by
  have hdash : arg.startsWith "-" = decide ("-".toList <+: arg.toList) := by
    rw [Bool.eq_iff_iff, String.startsWith_string_iff, decide_eq_true_iff]
  rw [isOption, hdash]

/-- One value alone is read as that. -/
theorem read_value {known : List String} {arg : String} (hvalue : isOption arg = false) (hdash : arg ≠ "--") :
    read known true [arg] = .ok ([], [arg]) := by
  rw [read, if_neg hdash, if_neg (by simp [hvalue]), if_pos rfl, read]
  rfl

/-- A command that is called without the flags for its page and the version goes on. -/
theorem enter_of_read {c : Command} {commands : List (String × Option String)} {mixed : Bool} {rest : List String}
    {work : List String → List String → Run} (h : read c.flags mixed args = .ok (flags, rest))
    (hflags : ∀ name ∈ flags, name ≠ "--help" ∧ name ≠ "--version") : enter fs c commands mixed args work = work flags rest := by
  have hfind : (flags.find? fun name => name == "--help" || name == "--version") = none := by
    rw [List.find?_eq_none]
    intro name hname
    simp [hflags name hname]
  rw [enter, h]
  dsimp only
  rw [hfind]

/-- A group whose first argument is the name of a command runs it. -/
theorem runGroup_of_name {c : Command} {commands : List (String × Option String)} {name : String}
    {command? : String → Option (List String → Run)} {command : List String → Run} (hname : isOption name = false)
    (hdash : name ≠ "--") (h : command? name = some command) : runGroup fs c commands (name :: args) command? = command args := by
  have hread : read c.flags false (name :: args) = .ok ([], name :: args) := by
    rw [read, if_neg hdash, if_neg (by simp [hname]), if_neg (by simp)]
  rw [runGroup, if_neg (by simp), enter_of_read hread (by simp)]
  dsimp only
  rw [h]

/-- The palette called with the words of the command runs it, and writes without control sequences. -/
theorem run_expand_file (stdin : ByteArray) (args : List String) :
    run s stdin ("expand" :: "file" :: args) fs =
      { runFile s fs args with stdout := written (runFile s fs args).stdout, stderr := written (runFile s fs args).stderr } := by
  have hexpand : isOption "expand" = false := by
    rw [isOption_eq]
    decide
  have hfile : isOption "file" = false := by
    rw [isOption_eq]
    decide
  rw [run, runGroup_of_name hexpand (by decide) rfl, runExpand, runGroup_of_name hfile (by decide) rfl]

/-- The command called with one argument that names a file expands it. -/
theorem runFile_eq_expandFile (hargs : read fileCommand.flags true args = .ok (flags, [path])) (hhelp : "--help" ∉ flags)
    (hnull : '\x00' ∉ path.toList) (hfile : fs.resolveText path = .ok (.file l bytes)) :
    runFile s fs args = expandFile s fs (decide ("--write" ∈ flags)) (Path.ofText path) := by
  have hflags : ∀ name ∈ flags, name ≠ "--help" ∧ name ≠ "--version" := by
    intro name hname
    have hknown : name ∈ ["--write", "--help"] := flags_subset hargs hname
    refine ⟨fun heq => hhelp (heq ▸ hname), ?_⟩
    rintro rfl
    exact absurd hknown (by decide)
  rw [runFile, enter_of_read hargs hflags]
  dsimp only
  rw [if_neg (by simpa using hnull), hfile]
  simp

/-- It shows or writes the expansion of a file of a kind that is rewritten. -/
theorem runFile_of_read (hargs : read fileCommand.flags true args = .ok (flags, [path])) (hhelp : "--help" ∉ flags)
    (hnull : '\x00' ∉ path.toList) (hfile : fs.resolveText path = .ok (.file l bytes))
    (haccepts : s.accepts (Path.ofText path).text = true) :
    runFile s fs args =
      if "--write" ∈ flags then writeFile s fs (Path.ofText path) else printFile s fs (Path.ofText path) := by
  rw [runFile_eq_expandFile hargs hhelp hnull hfile]
  simp [expandFile, haccepts]

/-! ## Printing -/

theorem printFile_eq (hread : fs.readBytes (Path.ofText path) = .ok bytes) (haccepts : s.accepts (Path.ofText path).text = true)
    (hdecode : Text.Utf8.decode bytes = .ok text) :
    (printFile s fs (Path.ofText path)).exit? = some 0 ∧
      (printFile s fs (Path.ofText path)).stdout = unified (expandText (s.modeOf (Path.ofText path).text) text) := by
  have hcode := Rewrite.hookCode?_of_read haccepts hread hdecode
  have hinspect := Rewrite.inspect_of_read haccepts hread hdecode
  rw [Rewrite.hookCode?, hinspect] at hcode
  have htext : fs.readText (Path.ofText path) = .ok (unified text) := by
    rw [FileSystem.readText, hread]
    exact Rewrite.textOf_of_decode hdecode
  rw [printFile, htext]
  refine ⟨rfl, ?_⟩
  dsimp only at hcode ⊢
  rw [hcode]
  split
  · rename_i hsame
    rw [hsame]
    rfl
  · rfl

/-! ## Writing -/

@[simp] theorem files_conclude (run : Run) (displays : List Display) (exit? : Option Nat) :
    (run.conclude displays exit?).files = run.files := by
  unfold Run.conclude
  dsimp only
  split <;> rfl

/-- Whatever the command says of it, the files are as the rewriting left them. -/
theorem files_writeFile (s : Settings) (fs : FileSystem) (path : Path) :
    (writeFile s fs path).files = (Rewrite.rewriteFile s false fs path none).files := by
  unfold writeFile
  dsimp only
  split
  · rfl
  · split
    · rfl
    · rw [files_conclude]

/-! ## Both -/

theorem written_unified (text : String) :
    written (unified text) = String.ofList (Text.withoutControls (Text.unify text.toList)) := by
  rw [written, unified, String.toList_ofList]

theorem written_unified_eq_iff : written (unified text) = text ↔ written (unified text) = unified text ∧ '\r' ∉ text.toList := by
  constructor
  · intro h
    have hreturn : '\r' ∉ text.toList := by
      rw [← h, written, String.toList_ofList]
      intro hmem
      have hunified := (Text.sublist_withoutControls _).subset hmem
      rw [unified, String.toList_ofList] at hunified
      exact Text.return_not_mem_unify _ hunified
    have hsame := Document.unified_eq_self_iff.mpr hreturn
    exact ⟨h.trans hsame.symm, hreturn⟩
  · rintro ⟨h, hreturn⟩
    exact h.trans (Document.unified_eq_self_iff.mpr hreturn)

theorem written_eq_self_iff : written text = text ↔ ¬ Text.HasControl text.toList := by
  rw [← Text.withoutControls_eq_self_iff, written]
  constructor
  · intro h
    conv => rhs; rw [← h]
    rw [String.toList_ofList]
  · intro h
    rw [h, String.ofList_toList]

/-- Without the flag the expansion is printed, with its line ends unified and without control sequences. -/
theorem run_plain (stdin : ByteArray) (hargs : read fileCommand.flags true args = .ok ([], [path])) (hnull : '\x00' ∉ path.toList)
    (hfile : fs.resolveText path = .ok (.file l bytes)) (haccepts : s.accepts (Path.ofText path).text = true)
    (hdecode : Text.Utf8.decode bytes = .ok text) :
    (run s stdin ("expand" :: "file" :: args) fs).exit? = some 0 ∧
      (run s stdin ("expand" :: "file" :: args) fs).stdout =
        written (unified (expandText (s.modeOf (Path.ofText path).text) text)) := by
  have hread : fs.readBytes (Path.ofText path) = .ok bytes := by
    rw [FileSystem.readBytes, Path.hasNull_ofText hnull, if_neg (by simp), FileSystem.resolve_of_resolveText hfile]
  have hprinted := printFile_eq (s := s) hread haccepts hdecode
  have hgo := runFile_of_read hargs (by simp) hnull hfile haccepts
  rw [if_neg (by simp)] at hgo
  rw [run_expand_file, hgo, ← hprinted.2]
  exact ⟨hprinted.1, rfl⟩

/-- With the flag the file holds the expansion with its line ends unified, or what it held if there was nothing to write out. -/
theorem run_writing (stdin : ByteArray) (hargs : read fileCommand.flags true args = .ok (flags, [path])) (hwrite : "--write" ∈ flags)
    (hhelp : "--help" ∉ flags) (hnull : '\x00' ∉ path.toList) (hfile : fs.resolveText path = .ok (.file l bytes))
    (haccepts : s.accepts (Path.ofText path).text = true) (hdecode : Text.Utf8.decode bytes = .ok text) :
    (run s stdin ("expand" :: "file" :: args) fs).files.readBytes (Path.ofText path) =
      .ok (if expandText (s.modeOf (Path.ofText path).text) text = text then bytes
        else Text.Utf8.encode (unified (expandText (s.modeOf (Path.ofText path).text) text))) := by
  have hgo := runFile_of_read hargs hhelp hnull hfile haccepts
  rw [if_pos hwrite] at hgo
  rw [run_expand_file, hgo]
  dsimp only
  rw [files_writeFile]
  exact (Rewrite.rewriteFile_in_place (Path.hasNull_ofText hnull) (FileSystem.resolve_of_resolveText hfile) haccepts hdecode).2

/-- What the two ways of expanding a file come to: one prints the expansion with its line ends unified and without control
sequences, the other leaves it in the file with its line ends unified, unless there is nothing to write out. The bytes are the same
exactly when no control sequence is in the expansion and a file that stays as it is has no carriage return. -/
theorem expand_file_prints_and_writes (stdin : ByteArray) {plain writing : List String}
    (hplain : read fileCommand.flags true plain = .ok ([], [path]))
    (hwriting : read fileCommand.flags true writing = .ok (flags, [path])) (hwrite : "--write" ∈ flags) (hhelp : "--help" ∉ flags)
    (hnull : '\x00' ∉ path.toList) (hfile : fs.resolveText path = .ok (.file l bytes))
    (haccepts : s.accepts (Path.ofText path).text = true) (hdecode : Text.Utf8.decode bytes = .ok text) :
    let out := expandText (s.modeOf (Path.ofText path).text) text
    let printed := run s stdin ("expand" :: "file" :: plain) fs
    let content := if out = text then bytes else Text.Utf8.encode (unified out)
    printed.exit? = some 0 ∧ printed.stdout = written (unified out) ∧
      (run s stdin ("expand" :: "file" :: writing) fs).files.readBytes (Path.ofText path) = .ok content ∧
      (Text.Utf8.encode printed.stdout = content ↔
        ¬ Text.HasControl (unified out).toList ∧ (out = text → '\r' ∉ text.toList)) := by
  intro out printed content
  obtain ⟨hexit, hstdout⟩ := run_plain stdin hplain hnull hfile haccepts hdecode
  refine ⟨hexit, hstdout, run_writing stdin hwriting hwrite hhelp hnull hfile haccepts hdecode, ?_⟩
  rw [show printed.stdout = written (unified out) from hstdout, ← written_eq_self_iff]
  by_cases hsame : out = text
  · have hcontent : content = Text.Utf8.encode text := by
      rw [← Text.Utf8.decode_eq_ok_iff.mp hdecode]
      exact if_pos hsame
    rw [hcontent, Text.Utf8.encode_inj, hsame, written_unified_eq_iff]
    simp
  · have hcontent : content = Text.Utf8.encode (unified out) := if_neg hsame
    rw [hcontent, Text.Utf8.encode_inj]
    simp [hsame]

end

namespace Sample

/-- A file with nothing to write out and a line end of two characters. -/
def returned : FileSystem := FileSystem.empty.putFile [Rewrite.Sample.first] (Text.Utf8.encode "z\r\n")

/-- A file with nothing to write out and a control sequence. -/
def coloured : FileSystem := FileSystem.empty.putFile [Rewrite.Sample.first] (Text.Utf8.encode "\x1b[1mz")

theorem read_plain : read fileCommand.flags true ["a.md"] = .ok ([], ["a.md"]) :=
  read_value (by rw [isOption_eq]; decide) (by decide)

/-- An argument behind the flag for writing. -/
theorem read_writing_of {path : String} (h : read fileCommand.flags true [path] = .ok ([], [path])) :
    read fileCommand.flags true ["--write", path] = .ok (["--write"], [path]) := by
  have hoption : isOption "--write" = true := by
    rw [isOption_eq]
    decide
  have hflag : flag fileCommand.flags "--write" = .ok "--write" := by
    have hname : String.ofList ("--write".toList.takeWhile (· != '=')) = "--write" := by decide
    rw [flag, hname]
    decide
  rw [read, if_neg (by decide), if_pos hoption, hflag, h]
  rfl

theorem read_writing : read fileCommand.flags true ["--write", "a.md"] = .ok (["--write"], ["a.md"]) := read_writing_of read_plain

theorem route_first : Files.Route.ofText "a.md" = ((⟨.standing, []⟩ : Path).append [Rewrite.Sample.first]).route := by decide

theorem accepts : ({} : Settings).accepts (Path.ofText "a.md").text = true := by cbv

/-- How the file is found, and what is printed of it. -/
theorem evaluated_returned :
    returned.resolveText "a.md" = .ok (.file [Rewrite.Sample.first] (Text.Utf8.encode "z\r\n")) ∧
      expandText (({} : Settings).modeOf (Path.ofText "a.md").text) "z\r\n" = "z\r\n" ∧ written (unified "z\r\n") = "z\n" :=
  ⟨FileSystem.resolveText_of_file (by decide) (by decide) route_first (by decide) (by decide), by cbv,
    (written_unified _).trans (congrArg String.ofList (show _ = ['z', '\n'] by cbv))⟩

theorem evaluated_coloured :
    coloured.resolveText "a.md" = .ok (.file [Rewrite.Sample.first] (Text.Utf8.encode "\x1b[1mz")) ∧
      expandText (({} : Settings).modeOf (Path.ofText "a.md").text) "\x1b[1mz" = "\x1b[1mz" ∧
      written (unified "\x1b[1mz") = "z" :=
  ⟨FileSystem.resolveText_of_file (by decide) (by decide) route_first (by decide) (by decide), by cbv,
    (written_unified _).trans (congrArg String.ofList (show _ = ['z'] by cbv))⟩

end Sample

theorem expand_file_prints_and_writes_returned :
    (read fileCommand.flags true ["a.md"] = .ok ([], ["a.md"]) ∧
      read fileCommand.flags true ["--write", "a.md"] = .ok (["--write"], ["a.md"]) ∧ '\x00' ∉ "a.md".toList ∧
      Sample.returned.resolveText "a.md" = .ok (.file [Rewrite.Sample.first] (Text.Utf8.encode "z\r\n")) ∧
      ({} : Settings).accepts (Path.ofText "a.md").text = true) ∧
    (run {} .empty ["expand", "file", "a.md"] Sample.returned).stdout = "z\n" ∧
    (run {} .empty ["expand", "file", "--write", "a.md"] Sample.returned).files.readBytes (Path.ofText "a.md") =
      .ok (Text.Utf8.encode "z\r\n") := by
  have hnull : '\x00' ∉ "a.md".toList := by decide
  obtain ⟨hfile, hsame, hprinted⟩ := Sample.evaluated_returned
  obtain ⟨-, hstdout, hcontent, -⟩ := expand_file_prints_and_writes .empty Sample.read_plain Sample.read_writing
    (by simp) (by simp) hnull hfile Sample.accepts (Text.Utf8.decode_encode _)
  rw [hsame, hprinted] at hstdout
  rw [if_pos hsame] at hcontent
  exact ⟨⟨Sample.read_plain, Sample.read_writing, hnull, hfile, Sample.accepts⟩, hstdout, hcontent⟩

/-- A file of each kind for which the two ways do not agree. -/
theorem printed_ne_written :
    (∃ content, (run {} .empty ["expand", "file", "--write", "a.md"] Sample.returned).files.readBytes (Path.ofText "a.md") =
        .ok content ∧ Text.Utf8.encode (run {} .empty ["expand", "file", "a.md"] Sample.returned).stdout ≠ content) ∧
      ∃ content, (run {} .empty ["expand", "file", "--write", "a.md"] Sample.coloured).files.readBytes (Path.ofText "a.md") =
        .ok content ∧ Text.Utf8.encode (run {} .empty ["expand", "file", "a.md"] Sample.coloured).stdout ≠ content := by
  have hnull : '\x00' ∉ "a.md".toList := by decide
  constructor
  · obtain ⟨hfile, hsame, hprinted⟩ := Sample.evaluated_returned
    refine ⟨_, run_writing .empty Sample.read_writing (by simp) (by simp) hnull hfile Sample.accepts (Text.Utf8.decode_encode _), ?_⟩
    rw [(run_plain .empty Sample.read_plain hnull hfile Sample.accepts (Text.Utf8.decode_encode _)).2]
    rw [if_pos hsame, hsame, hprinted, Ne, Text.Utf8.encode_inj]
    decide
  · obtain ⟨hfile, hsame, hprinted⟩ := Sample.evaluated_coloured
    refine ⟨_, run_writing .empty Sample.read_writing (by simp) (by simp) hnull hfile Sample.accepts (Text.Utf8.decode_encode _), ?_⟩
    rw [(run_plain .empty Sample.read_plain hnull hfile Sample.accepts (Text.Utf8.decode_encode _)).2]
    rw [if_pos hsame, hsame, hprinted, Ne, Text.Utf8.encode_inj]
    decide

end ClassChain.Palette

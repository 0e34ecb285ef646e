import ClassChain.Help
import ClassChain.Palette.Arguments
import ClassChain.Program
import ClassChain.Rewrite.File
import ClassChain.Text.Control
import ClassChain.Version

/-!
# The command palette

Two commands in a group: one writes out text given as arguments or on standard input, the other shows or writes the expansion of a
file. Every command and group tells about itself when asked; a group called alone does so too.
-/

namespace ClassChain.Palette

open Files (Path FileSystem)

/-- A command as it is called: the words that lead to it, what follows them, and the flags it knows. -/
structure Command where
  path : String
  shape : String
  flags : List String
  help : Help.Source

/-- The page of a command or group with its flags. -/
def Command.page (c : Command) (commands : List (String × Option String)) : Help.Page :=
  let options := c.flags.map fun name =>
    if name = "--version" then ⟨name, "Show the version and exit."⟩ else Help.helpOption
  if commands.isEmpty then Help.commandPage c.help else Help.groupPage ⟨c.path, c.help, commands, options⟩

/-- Ends a run with the page of a command. -/
def tell (fs : FileSystem) (page : Help.Page) (stdout stderr : String) (status : Nat) : Run :=
  let run : Run := { files := fs, notices := page.notices, shown := page.showing.shown }
  match page.showing.fault? with
  | none => { run with stdout, stderr, exit? := some status }
  | some fault => { run with escape? := some (.markup fault) }

/-- Ends a run on a misuse of a command. -/
def refuse (fs : FileSystem) (c : Command) (misuse : Misuse) : Run :=
  { files := fs
    stderr := "Usage: " ++ c.path ++ " " ++ c.shape ++ "\nTry '" ++ c.path ++ " --help' for help.\n\nError: " ++
      misuse.message ++ "\n"
    exit? := some 2 }

/-- Ends a run on an option that cannot be read. -/
def refuseOption (fs : FileSystem) (c : Command) : OptionFault → Run
  | .unknown name alike => refuse fs c (.noOption name alike)
  | .takesNoValue name =>
    { files := fs, stderr := "Error: Option " ++ Text.quoted name ++ " does not take a value.\n", exit? := some 2 }

/-- Ends a run on a failure of the command itself. -/
def fail (run : Run) (message : String) : Run := { run with stderr := "Error: " ++ message ++ "\n", exit? := some 1 }

/-- Goes on with the flags and arguments of a command, unless one of the flags asks for the page or the version. -/
def enter (fs : FileSystem) (c : Command) (commands : List (String × Option String)) (mixed : Bool) (args : List String)
    (work : List String → List String → Run) : Run :=
  match read c.flags mixed args with
  | .error fault => refuseOption fs c fault
  | .ok (flags, rest) =>
    match flags.find? fun name => name == "--help" || name == "--version" with
    | some "--version" => { files := fs, stdout := "chainwind, version " ++ Version.current ++ "\n", exit? := some 0 }
    | some _ => tell fs (c.page commands) "\n" "" 0
    | none => work flags rest

/-- Runs a group: on its own it tells about itself, otherwise the command named takes over. A name that no command has may be an
option after a double dash, which is then read as one. -/
def runGroup (fs : FileSystem) (c : Command) (commands : List (String × Option String)) (args : List String)
    (command? : String → Option (List String → Run)) : Run :=
  if args.isEmpty then tell fs (c.page commands) "" "\n" 2
  else
    enter fs c commands false args fun _ rest =>
      match rest with
      | [] => refuse fs c .missingCommand
      | name :: args =>
        match command? name with
        | some command => command args
        | none =>
          enter fs c commands false (name :: args) fun _ _ =>
            refuse fs c (.noCommand name (Text.Likeness.alike (commands.map (·.1)) name))

/-! ## The commands -/

/-- The command that writes out text. -/
def textCommand : Command where
  path := "chainwind-cli expand text"
  shape := "[OPTIONS] TEXT..."
  flags := ["--attributes-only", "--help"]
  help := .text (Help.commandText "Expand chained classes in text" "expand text [--attributes-only] <text>..."
    [("<text>", "text to expand; '-' reads from stdin"), ("--attributes-only", "only rewrite quoted attribute values")])

/-- The command that shows or writes the expansion of a file. -/
def fileCommand : Command where
  path := "chainwind-cli expand file"
  shape := "[OPTIONS] PATH"
  flags := ["--write", "--help"]
  help := .text (Help.commandText "Expand chained classes in a file" "expand file [--write] <path>"
    [("<path>", "file to expand"), ("--write", "rewrite the file in place instead of printing it")])

/-- The group of the two commands. -/
def expandGroup : Command where
  path := "chainwind-cli expand"
  shape := "[OPTIONS] COMMAND [ARGS]..."
  flags := ["--help"]
  help := .text ("\n    expand\n\n" ++
    "    Expand chained utility classes such as hover:a|b into hover:a hover:b.\n    ")

/-- The palette itself. -/
def rootGroup : Command where
  path := "chainwind-cli"
  shape := "[OPTIONS] COMMAND [ARGS]..."
  flags := ["--version", "--help"]
  help := .text "\n    chainwind Command Palette\n\n    Expand chained utility classes in text and files.\n    "

/-- Text with its chains written out, on a line of its own unless it ends one. -/
def printed (mode : Document.Mode) (source : String) : String :=
  Document.expandText mode source ++ if source.toList.getLast? = some '\n' then "" else "\n"

/-- Writes out text: the arguments with spaces between, or what stands on standard input for a dash alone. -/
def runText (fs : FileSystem) (stdin : ByteArray) (args : List String) : Run :=
  enter fs textCommand [] true args fun flags args =>
    let mode := if flags.contains "--attributes-only" then .attributesOnly else .everything
    match args with
    | [] => refuse fs textCommand (.missingArgument "TEXT...")
    | ["-"] =>
      match FileSystem.textOf stdin with
      | .ok source => { files := fs, stdout := printed mode source, exit? := some 0 }
      | .error error => { files := fs, escape? := some (.file error) }
    | args => { files := fs, stdout := printed mode (" ".intercalate args), exit? := some 0 }

/-- Rewrites a file and tells what came of it. -/
def writeFile (s : Settings) (fs : FileSystem) (path : Path) : Run :=
  let outcome := Rewrite.rewriteFile s false fs path none
  let run : Run := { files := outcome.files, notices := outcome.notices }
  match outcome.result with
  | .error error => { run with escape? := some (.file error) }
  | .ok result =>
    if !result.status then fail run ((result.message?.filter (· != "")).getD ("Could not rewrite " ++ path.text))
    else
      let state := if result.changed then "expanded" else "unchanged"
      run.conclude [.line (styled "bold green" (path.text ++ ": " ++ state))] (some 0)

/-- Prints the expansion of a file. -/
def printFile (s : Settings) (fs : FileSystem) (path : Path) : Run :=
  match fs.readText path with
  | .error (.undecodable _) =>
    let message := "File is not valid UTF-8: " ++ path.text
    fail { files := fs, notices := [.failed message] } message
  | .error error => { files := fs, escape? := some (.file error) }
  | .ok code =>
    let verdict := Hook.transform s code path.text
    { files := fs, notices := verdict.notices path.text, stdout := verdict.code?.getD code, exit? := some 0 }

/-- Shows or writes the expansion of a file that is there and of a kind that is rewritten. -/
def expandFile (s : Settings) (fs : FileSystem) (write : Bool) (path : Path) : Run :=
  if !s.accepts path.text then
    ({ files := fs } : Run).conclude [.line (styled "bold yellow" ("Not an eligible file: " ++ path.text))] (some 0)
  else if write then writeFile s fs path
  else printFile s fs path

/-- Shows or writes the expansion of the file that the argument names. -/
def runFile (s : Settings) (fs : FileSystem) (args : List String) : Run :=
  enter fs fileCommand [] true args fun flags args =>
    match args with
    | [] => refuse fs fileCommand (.missingArgument "PATH")
    | path :: extra =>
      if path.toList.contains '\x00' then { files := fs, escape? := some (.file .nullCharacter) }
      else
        match fs.resolveText path with
        | .ok (.file _ _) =>
          if extra.isEmpty then expandFile s fs (flags.contains "--write") (Path.ofText path)
          else refuse fs fileCommand (.extraArguments extra)
        | .ok (.directory _) => refuse fs fileCommand (.isDirectory path)
        | _ => refuse fs fileCommand (.notThere path)

/-- Runs the group of the two commands. -/
def runExpand (s : Settings) (fs : FileSystem) (stdin : ByteArray) (args : List String) : Run :=
  runGroup fs expandGroup [("text", none), ("file", none)] args fun
    | "text" => some (runText fs stdin)
    | "file" => some (runFile s fs)
    | _ => none

/-- A text as it is written elsewhere than to a terminal. -/
def written (text : String) : String := String.ofList (Text.withoutControls text.toList)

/-- Runs the palette with arguments. What it writes goes to no terminal. -/
def run (s : Settings) (stdin : ByteArray) (args : List String) (fs : FileSystem) : Run :=
  let run := runGroup fs rootGroup [("expand", some "expand chained classes")] args fun
    | "expand" => some (runExpand s fs stdin)
    | _ => none
  { run with stdout := written run.stdout, stderr := written run.stderr }

end ClassChain.Palette

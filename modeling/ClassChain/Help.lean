import ClassChain.Display
import ClassChain.Notice
import ClassChain.Text.Newline

/-!
# Help pages

The page of a group lists its commands and options line by line; the page of a command is its help text in a frame as wide as the
longest line asks for. What goes wrong while a page is shown is logged and told in one line more, which is markup itself.
-/

namespace ClassChain.Help

/-- The help text that a command is given: none, a text, or a number in error. -/
inductive Source where
  | none
  | text (s : String)
  | number
  deriving DecidableEq, Repr

/-- An option of a command and what it is for. -/
structure OptionHelp where
  name : String
  help : String
  deriving DecidableEq, Repr

/-- The option that every command has. -/
def helpOption : OptionHelp := ⟨"--help", "Show this message and exit."⟩

/-- A group of commands: the path by which it is called, its help, its commands with what is said of each, and its options. -/
structure Group where
  path : String
  help : Source
  commands : List (String × Option String)
  options : List OptionHelp
  deriving DecidableEq, Repr

/-- Adds a command; one of the same name keeps its place. -/
def addNamed {α : Type} (named : List (String × α)) (name : String) (value : α) : List (String × α) :=
  if named.any (·.1 == name) then named.map fun n => if n.1 == name then (name, value) else n
  else named ++ [(name, value)]

/-- Named values of which a later one takes the place of an earlier one of the same name. -/
def ofPairs {α : Type} (pairs : List (String × α)) : List (String × α) :=
  pairs.foldl (fun named p => addNamed named p.1 p.2) []

/-- What was shown and logged of a page, and the fault in the markup of the last line, if any. -/
structure Page where
  showing : Showing
  notices : List Notice
  deriving DecidableEq, Repr

/-- The line that tells what went wrong. -/
def failureLine (cause : String) : Display := .line (styled "bold red" "Help rendering error:" ++ " " ++ cause)

/-- Ends a page on which something went wrong after some of it was shown. -/
def failed (shown : List Display) (cause : String) : Page :=
  let last := showAll [failureLine cause]
  ⟨⟨shown ++ last.shown, last.fault?⟩, [.unshown cause]⟩

/-- Shows a page, with what went wrong in place of the rest. -/
def present (displays : List Display) : Page :=
  match showAll displays with
  | ⟨shown, none⟩ => ⟨⟨shown, none⟩, []⟩
  | ⟨shown, some fault⟩ => failed shown fault.message

/-- A text without the blanks around it. -/
def trimmed (s : String) : String := String.ofList (Text.trimBlanks s.toList)

/-- The path of a group as its page shows it: without blanks before it, unless it is all blanks. -/
def Group.shownPath (g : Group) : String :=
  match g.path.toList.dropWhile Text.isBlank with
  | [] => g.path
  | cs => String.ofList cs

/-- The first line of the page of a group. -/
def usageLine (g : Group) : Display :=
  .line (styled "bold yellow" "Usage:" ++ " " ++ styled "cyan" g.shownPath ++ " " ++
    styled "magenta" "[OPTIONS] COMMAND [ARGS]..." ++ "\n")

/-- The lines on the commands of a group. -/
def commandLines (commands : List (String × Option String)) : List Display :=
  if commands.isEmpty then []
  else
    .line (styled "bold green" "Available Commands:") ::
      commands.map (fun (name, help?) =>
        let help := match help? with
          | some "" | none => "No description available."
          | some help => help
        .line ("- " ++ styled "cyan" name ++ ": " ++ styled "white" help)) ++ [.line ""]

/-- The lines on the options of a group. -/
def optionLines (options : List OptionHelp) : List Display :=
  .line (styled "bold yellow" "Options:") :: options.map fun o => .line ("- " ++ styled "cyan" o.name ++ ": " ++ o.help)

/-- The page of a group. -/
def groupPage (g : Group) : Page :=
  let rest := commandLines g.commands ++ optionLines g.options
  match g.help with
  | .none | .text "" => present (usageLine g :: rest)
  | .text help => present (usageLine g :: .line (styled "bold cyan" (trimmed help) ++ "\n") :: rest)
  | .number =>
    match showAll [usageLine g] with
    | ⟨shown, none⟩ => failed shown "'int' object has no attribute 'strip'"
    | ⟨shown, some fault⟩ => failed shown fault.message

/-- The greatest width of a frame. -/
def widthLimit : Nat := 80

/-- A help text in its frame. -/
def panel (help : String) : Display := .panel help (min (Text.longestLine help.toList + 10) widthLimit)

/-- The page of a command. -/
def commandPage : Source → Page
  | .none | .text "" => present [panel "No help text available."]
  | .text help => present [panel help]
  | .number => failed [] "'int' object has no attribute 'splitlines'"

/-- The help text of a command: what it does, how it is called, and what each argument is for. -/
def commandText (description usage : String) (arguments : List (String × String)) : String :=
  styled "bold cyan" description ++ "\n\n" ++ styled "bold yellow" "Usage:" ++ "\n    " ++ styled "green" usage ++ "\n\n" ++
    styled "bold yellow" "Arguments:" ++ "\n" ++
    String.join (arguments.map fun (name, help) => "    " ++ styled "green" name ++ ": " ++ help ++ "\n")

end ClassChain.Help

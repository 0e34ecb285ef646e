import ClassChain.Text.Digit
import ClassChain.Text.Quoted
import ClassChain.Version

/-!
# Arguments of the batch program

Options may stand anywhere before a double dash. A long option may be shortened as long as only one begins that way; flags of one
letter may be joined. A number below zero, a dash alone and whatever holds a space is a value, not an option. Help and version are
given as soon as they are met.
-/

namespace ClassChain.Batch

/-- What a flag does. -/
inductive Effect where
  | help
  | version
  | inplace
  | check
  /-- Nothing; the flag is accepted and not listed. -/
  | ignored
  deriving DecidableEq, Repr

/-- A flag with its names. -/
structure Flag where
  names : List String
  effect : Effect
  deriving DecidableEq, Repr

/-- What the program can be called with. -/
structure Interface where
  flags : List Flag
  /-- The names of the values that must be given, in order. -/
  places : List String
  usage : String
  /-- The help page. -/
  page : String

/-- The choices that flags make. -/
structure Choices where
  inplace : Bool := false
  check : Bool := false
  deriving DecidableEq, Repr

/-- What reading the arguments comes to. -/
inductive Parsed where
  /-- The program goes to work; a place that only a double dash was given for has no value. -/
  | accepted (choices : Choices) (values : List (Option String))
  /-- A text is printed and nothing else is done. -/
  | told (text : String)
  /-- The arguments are refused. -/
  | refused (message : String)
  deriving DecidableEq, Repr

/-- The names of all flags with their flags, in order. -/
def Interface.named (i : Interface) : List (String × Flag) :=
  i.flags.flatMap fun f => f.names.map fun name => (name, f)

/-- The flag of a name. -/
def Interface.flag? (i : Interface) (name : String) : Option Flag := i.named.lookup name

/-- An argument taken for a flag: the flag, the name it was called by, and what was joined to it. -/
structure Call where
  flag : Flag
  name : String
  joined? : Option String
  deriving DecidableEq, Repr

/-- An argument by what it can be. -/
inductive Argument where
  | value (text : String)
  /-- The double dash after which everything is a value. -/
  | divider
  | call (c : Call)
  /-- An option that there is not. -/
  | unknown (text : String)
  deriving DecidableEq, Repr

/-- The text before and after the first equals sign. -/
def cutAtEquals (arg : String) : String × Option String :=
  let cs := arg.toList
  match cs.dropWhile (· != '=') with
  | [] => (arg, none)
  | _ :: after => (String.ofList (cs.takeWhile (· != '=')), some (String.ofList after))

/-- The flags that an argument may be short for. -/
def Interface.candidates (i : Interface) (arg : String) : List Call :=
  if arg.startsWith "--" then
    let (shortened, joined?) := cutAtEquals arg
    i.named.filterMap fun (name, flag) =>
      if shortened.toList.isPrefixOf name.toList then some ⟨flag, name, joined?⟩ else none
  else
    i.named.filterMap fun (name, flag) =>
      if name.toList = arg.toList.take 2 then some ⟨flag, name, some (String.ofList (arg.toList.drop 2))⟩ else none

/-- Digits and nothing else, but for one line end after them. -/
def isDigits (cs : List Char) : Bool :=
  !(cs.takeWhile Text.Digit.isDigit).isEmpty && [[], ['\n']].contains (cs.dropWhile Text.Digit.isDigit)

/-- A number below zero, whole or with a point. -/
def isNegativeNumber (arg : String) : Bool :=
  match arg.toList with
  | '-' :: number =>
    isDigits number ||
      match number.dropWhile Text.Digit.isDigit with
      | '.' :: fraction => isDigits fraction
      | _ => false
  | _ => false

/-- What an argument before any double dash is; an error if it is short for several flags. -/
def Interface.classify (i : Interface) (arg : String) : Except String Argument :=
  if !arg.startsWith "-" then .ok (.value arg)
  else
    match i.flag? arg with
    | some flag => .ok (.call ⟨flag, arg, none⟩)
    | none =>
      if arg = "-" then .ok (.value arg)
      else
        let (name, joined?) := cutAtEquals arg
        match joined?, i.flag? name with
        | some joined, some flag => .ok (.call ⟨flag, name, some joined⟩)
        | _, _ =>
          match i.candidates arg with
          | [call] => .ok (.call call)
          | [] => .ok (if isNegativeNumber arg || arg.toList.contains ' ' then .value arg else .unknown arg)
          | calls => .error ("ambiguous option: " ++ arg ++ " could match " ++ ", ".intercalate (calls.map (·.name)))

/-- What all arguments are. -/
def Interface.classifyAll (i : Interface) : List String → Except String (List Argument)
  | [] => .ok []
  | arg :: args =>
    if arg = "--" then .ok (.divider :: args.map .value)
    else do return (← i.classify arg) :: (← i.classifyAll args)

/-- What is said of something joined to a flag that takes nothing. -/
def ignoredMessage (flag : Flag) (joined : String) : String :=
  "argument " ++ "/".intercalate flag.names ++ ": ignored explicit argument " ++ Text.quoted joined

/-- The effects of letters joined to a flag of one letter, each a flag itself. -/
def Interface.joinedEffects (i : Interface) (flag : Flag) : List Char → Except String (List Effect)
  | [] => .ok [flag.effect]
  | c :: cs =>
    match i.flag? (String.ofList ['-', c]) with
    | some next => do return flag.effect :: (← i.joinedEffects next cs)
    | none => .error (ignoredMessage flag (String.ofList (c :: cs)))

/-- The effects of a flag as it was called. -/
def Interface.effects (i : Interface) (call : Call) : Except String (List Effect) :=
  match call.joined? with
  | none => .ok [call.flag.effect]
  | some joined =>
    if call.name.startsWith "--" || joined = "" then .error (ignoredMessage call.flag joined)
    else i.joinedEffects call.flag joined.toList

/-- The choices after effects; or the text that one of them gives. -/
def applyEffects (i : Interface) (choices : Choices) : List Effect → Except String Choices
  | [] => .ok choices
  | .help :: _ => .error i.page
  | .version :: _ => .error ("chainwind " ++ Version.current ++ "\n")
  | .inplace :: rest => applyEffects i { choices with inplace := true } rest
  | .check :: rest => applyEffects i { choices with check := true } rest
  | .ignored :: rest => applyEffects i choices rest

/-- What stands right before an argument. -/
inductive Before where
  /-- A value that filled a place. -/
  | filled
  /-- A double dash that is dropped with the next value. -/
  | divider
  | other
  deriving DecidableEq, Repr

/-- The value that an argument gives to a place. Of the double dashes given for a place the first is dropped. -/
def valueOf (before : Before) (text : String) : Option String := if text = "--" ∧ before ≠ .divider then none else some text

/-- Goes through the arguments: the places still to fill, the values and the superfluous arguments so far, both latest first, and
what stands right before. A double dash is dropped after a value, and before one that a place waits for. -/
def Interface.go (i : Interface) (choices : Choices) (places : List String) (values : List (Option String)) (extras : List String)
    (before : Before) : List Argument → Parsed
  | [] =>
    if places ≠ [] then .refused ("the following arguments are required: " ++ ", ".intercalate places)
    else if extras ≠ [] then .refused ("unrecognized arguments: " ++ " ".intercalate extras.reverse)
    else .accepted choices values.reverse
  | .value text :: rest =>
    match places with
    | [] => i.go choices [] values (text :: extras) .other rest
    | _ :: places => i.go choices places (valueOf before text :: values) extras .filled rest
  | .divider :: rest =>
    if before = .filled then i.go choices places values extras .other rest
    else if places ≠ [] ∧ rest ≠ [] then i.go choices places values extras .divider rest
    else i.go choices places values ("--" :: extras) .other rest
  | .unknown text :: rest => i.go choices places values (text :: extras) .other rest
  | .call call :: rest =>
    match i.effects call with
    | .error message => .refused message
    | .ok effects =>
      match applyEffects i choices effects with
      | .error text => .told text
      | .ok choices => i.go choices places values extras .other rest

/-- Reads the arguments of a run. -/
def Interface.parse (i : Interface) (args : List String) : Parsed :=
  match i.classifyAll args with
  | .error message => .refused message
  | .ok arguments => i.go {} i.places [] [] .other arguments

/-- What is printed of arguments that are refused. -/
def Interface.refusal (i : Interface) (message : String) : String := i.usage ++ "chainwind: error: " ++ message ++ "\n"

/-! ## The two ways to call the program -/

/-- The flags that are listed. -/
def flags : List Flag :=
  [⟨["-h", "--help"], .help⟩, ⟨["--inplace"], .inplace⟩, ⟨["--check"], .check⟩, ⟨["-V", "--version"], .version⟩]

/-- What the program is for. -/
def purpose : String := "A ChRIS plugin expanding chained utility classes in source files.\n"

/-- What is said of each flag. -/
def flagsHelp : String :=
  "options:\n" ++
  "  -h, --help     show this help message and exit\n" ++
  "  --inplace      Rewrite files in the input directory instead of the output\n" ++
  "                 directory (default: False)\n" ++
  "  --check        Only report files that would change; exit 1 if there are any\n" ++
  "                 (default: False)\n" ++
  "  -V, --version  show program's version number and exit\n"

/-- The flags alone. -/
def flagsOnly : Interface where
  flags := flags
  places := []
  usage := "usage: chainwind [-h] [--inplace] [--check] [-V]\n"
  page := "usage: chainwind [-h] [--inplace] [--check] [-V]\n" ++ "\n" ++ purpose ++ "\n" ++ flagsHelp

/-- The flags and the two directories. -/
def withDirectories : Interface where
  flags := flags ++ [⟨["--saveinputmeta"], .ignored⟩, ⟨["--saveoutputmeta"], .ignored⟩]
  places := ["inputdir", "outputdir"]
  usage := "usage: chainwind [-h] [--inplace] [--check] [-V] inputdir outputdir\n"
  page := "usage: chainwind [-h] [--inplace] [--check] [-V] inputdir outputdir\n" ++ "\n" ++ purpose ++ "\n" ++
    "positional arguments:\n" ++
    "  inputdir       directory containing input files\n" ++
    "  outputdir      directory containing output files\n" ++ "\n" ++ flagsHelp

end ClassChain.Batch

import ClassChain.Settings.Basic
import ClassChain.Settings.Json
import ClassChain.Settings.Options
import ClassChain.Text.Small

/-!
# Reading settings

A setting is taken from the values given by name, else from the environment, else it keeps its default. Names may be spelled in
capitals or small letters; of values given by name the first of a field counts, of the environment the last. In the environment a
setting has the name of its field after `CHW_`, and a list is written in JSON. A list that is not JSON is refused at once,
whatever else is given; all other problems are listed together. How the environment is read can be changed by options.
-/

namespace ClassChain.Settings

/-- Why settings cannot be read. -/
inductive Error where
  /-- A field whose name in the environment cannot be made. -/
  | unnamed (field : Field)
  /-- A list in the environment that is not JSON. -/
  | unreadable (field : Field)
  /-- A list in the environment whose brackets are nested too deep. -/
  | tooDeep (inner : Json.Container)
  /-- An option that cannot be used. -/
  | option (fault : OptionFault)
  /-- Values of the wrong kind. -/
  | invalid (problems : List Problem)
  deriving DecidableEq, Repr

/-- What is said of a reading that failed; problems are told one a line. -/
def Error.message : Error → String
  | .unnamed field => "error getting value for field \"" ++ field.name ++ "\" from source \"EnvSettingsSource\""
  | .unreadable field => "error parsing value for field \"" ++ field.name ++ "\" from source \"EnvSettingsSource\""
  | .tooDeep .list => "maximum recursion depth exceeded while decoding a JSON array from a unicode string"
  | .tooDeep .record => "maximum recursion depth exceeded while decoding a JSON object from a unicode string"
  | .option fault => fault.message
  | .invalid problems => "\n".intercalate (problems.map fun p => ".".intercalate p.place ++ ": " ++ p.defect.message)

/-- The words that stand for a switch. -/
def switchWords : List (String × Bool) :=
  [("true", true), ("t", true), ("yes", true), ("y", true), ("on", true), ("1", true), ("false", false), ("f", false),
    ("no", false), ("n", false), ("off", false), ("0", false)]

/-- The switch that a value stands for. -/
def switchOf (field : Field) : Value → Except (List Problem) Bool
  | .switch on => .ok on
  | .integer 0 | .fraction (some 0) => .ok false
  | .integer 1 | .fraction (some 1) => .ok true
  | .integer n => .error [⟨if isWord n then .unclearSwitch else .notSwitch, [field.name]⟩]
  | .fraction (some _) => .error [⟨.unclearSwitch, [field.name]⟩]
  | .text word =>
    match switchWords.lookup word.toLower with
    | some on => .ok on
    | none => .error [⟨.unclearSwitch, [field.name]⟩]
  | _ => .error [⟨.notSwitch, [field.name]⟩]

/-- The texts that the items of a list are, from the given place on. -/
def textsFrom (field : Field) (place : Nat) : List Value → Except (List Problem) (List String)
  | [] => .ok []
  | item :: items =>
    match item, textsFrom field (place + 1) items with
    | .text s, rest => rest.map (s :: ·)
    | _, rest =>
      .error (⟨.notText, [field.name, toString place]⟩ :: match rest with
        | .ok _ => []
        | .error problems => problems)

/-- The list of texts that a value is. -/
def textsOf (field : Field) : Value → Except (List Problem) (List String)
  | .list items => textsFrom field 0 items
  | _ => .error [⟨.notList, [field.name]⟩]

/-- Two spellings of one name. -/
def isSpelling (name spelling : String) : Bool := spelling.toLower == name.toLower

/-- What is given for a name, in order. -/
def givenFor {α : Type} (name : String) (given : List (String × α)) : List α :=
  (given.filter fun g => isSpelling name g.1).map (·.2)

/-- A name of the environment as it is compared. -/
def Options.spelling (options : Options) (name : String) : String := if options.exactNames then name else Text.lower name

/-- The values of an environment by their names, as they are looked up. -/
def Options.entries (options : Options) (environment : List (String × String)) : List (String × String) :=
  (environment.filter fun e => !(options.ignoresEmpty && e.2 == "")).map fun e => (options.spelling e.1, e.2)

/-- What the environment says of a field under its name. -/
def fromEntries (options : Options) (entries : List (String × String)) (field : Field) (name : String) :
    Except Error (Option Value) :=
  match ((entries.filter (·.1 == name)).map (·.2)).getLast? with
  | none =>
    let hasMember := match options.memberMark? with
      | some mark => entries.any fun e => (name ++ mark).toList.isPrefixOf e.1.toList
      | none => false
    .ok (if field.isList && hasMember then some (.record []) else none)
  | some text =>
    if options.nullWord? = some text then .ok (some .null)
    else if field.isList then
      match Json.read text with
      | .error .malformed => .error (.unreadable field)
      | .error (.tooDeep inner) => .error (.tooDeep inner)
      | .ok .null => .ok none
      | .ok value => .ok (some value)
    else .ok (some (.text text))

/-- What the environment says of a field. -/
def fromEnvironment (options : Options) (environment : List (String × String)) (field : Field) : Except Error (Option Value) :=
  match options.lead with
  | .text lead => fromEntries options (options.entries environment) field (options.spelling (lead ++ field.name))
  | _ => .error (.unnamed field)

/-- Takes a field's value over, or keeps the default when there is none. -/
def take {α : Type} (default : α) (read : Value → Except (List Problem) α) : Option Value → Except (List Problem) α
  | none => .ok default
  | some value => read value

/-- The problems of a reading. -/
def problemsOf {α : Type} : Except (List Problem) α → List Problem
  | .ok _ => []
  | .error problems => problems

/-- The settings that an environment and values given by name amount to, with the options that are in force. -/
def readWith (options : Options) (environment : List (String × String)) (given : List (String × Value)) :
    Except Error Settings := do
  let environmental ← Field.all.mapM fun field => do
    return (field, ← fromEnvironment options environment field)
  let value (field : Field) : Option Value :=
    (givenFor field.name given).head? <|> (environmental.lookup field).join
  let base : Settings := {}
  let quiet := take base.quiet (switchOf .quiet) (value .quiet)
  let detailed := take base.detailed (switchOf .detailed) (value .detailed)
  let fileExtensions := take base.fileExtensions (textsOf .fileExtensions) (value .fileExtensions)
  let scriptExtensions := take base.scriptExtensions (textsOf .scriptExtensions) (value .scriptExtensions)
  let excludedDirs := take base.excludedDirs (textsOf .excludedDirs) (value .excludedDirs)
  let unknown := given.filterMap fun g =>
    if Field.all.any (isSpelling ·.name g.1) then none else some (⟨.unknownName, [g.1]⟩ : Problem)
  match quiet, detailed, fileExtensions, scriptExtensions, excludedDirs, unknown with
  | .ok quiet, .ok detailed, .ok fileExtensions, .ok scriptExtensions, .ok excludedDirs, [] =>
    .ok { quiet, detailed, fileExtensions, scriptExtensions, excludedDirs }
  | _, _, _, _, _, _ =>
    .error (.invalid (problemsOf quiet ++ problemsOf detailed ++ problemsOf fileExtensions ++ problemsOf scriptExtensions ++
      problemsOf excludedDirs ++ unknown))

/-- The settings that an environment and values given by name amount to; options may be among the values. -/
def read (environment : List (String × String)) (given : List (String × Value)) : Except Error Settings :=
  match Options.ofGiven given with
  | .ok (options, others) => readWith options environment others
  | .error fault => .error (.option fault)

end ClassChain.Settings

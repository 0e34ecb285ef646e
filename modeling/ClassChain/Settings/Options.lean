import ClassChain.Settings.Field
import ClassChain.Settings.Value

/-!
# How settings are read

Among the values given by name may be some that say how the others are looked for. They have names of their own, which open with
an underscore; one that is nothing leaves everything as it is.
-/

namespace ClassChain.Settings

/-- Why values that say how settings are read cannot be used. -/
inductive OptionFault where
  /-- A name that is always given is given once more. -/
  | givenTwice (name : String)
  /-- A value from which one cannot be taken. -/
  | uncountable (kind : String)
  deriving DecidableEq, Repr

/-- A fault in words. -/
def OptionFault.message : OptionFault → String
  | .givenTwice name => "BaseSettings.__init__() got multiple values for argument '" ++ name ++ "'"
  | .uncountable kind => "unsupported operand type(s) for -: '" ++ kind ++ "' and 'int'"

/-- How settings are read. -/
structure Options where
  /-- Names in the environment are told apart by capitals and small letters. -/
  exactNames : Bool := false
  /-- What stands before the name of a field in the environment; only a text can be put there. -/
  lead : Value := .text "CHW_"
  /-- An empty value in the environment is none. -/
  ignoresEmpty : Bool := false
  /-- The word that stands for nothing in the environment. -/
  nullWord? : Option String := none
  /-- What stands between the name of a record and the name of a member in the environment. -/
  memberMark? : Option String := none

namespace Options

/-- The name that is given by the reading itself. -/
def ownName : String := "__pydantic_self__"

/-- The names of the values that change nothing here. -/
def idleNames : List String := ["_nested_model_default_partial_update", "_env_file", "_env_file_encoding", "_env_parse_enums",
  "_cli_prog_name", "_cli_parse_args", "_cli_settings_source", "_cli_parse_none_str", "_cli_hide_none_type", "_cli_avoid_json",
  "_cli_enforce_required", "_cli_use_class_docs_for_groups", "_cli_exit_on_error", "_cli_prefix", "_cli_flag_prefix_char",
  "_cli_implicit_flags", "_cli_ignore_unknown_args", "_cli_kebab_case", "_cli_shortcuts", "_secrets_dir"]

/-- Takes one value over, if its name is that of an option. -/
def take? (options : Options) (name : String) (value : Value) : Option (Except OptionFault Options) :=
  match name, value with
  | "_case_sensitive", .null | "_env_prefix", .null | "_env_ignore_empty", .null | "_env_parse_none_str", .null
  | "_env_nested_delimiter", .null | "_env_nested_max_split", .null => some (.ok options)
  | "_case_sensitive", _ => some (.ok { options with exactNames := value.isTrue })
  | "_env_prefix", _ => some (.ok { options with lead := value })
  | "_env_ignore_empty", _ => some (.ok { options with ignoresEmpty := value.isTrue })
  | "_env_parse_none_str", _ => some (.ok { options with nullWord? := value.text? })
  | "_env_nested_delimiter", _ => some (.ok { options with memberMark? := value.text?.filter (· != "") })
  | "_env_nested_max_split", .text _ | "_env_nested_max_split", .list _ | "_env_nested_max_split", .record _ =>
    some (if value.isTrue then .error (.uncountable value.kind) else .ok options)
  | _, _ => if name ∈ "_env_nested_max_split" :: idleNames then some (.ok options) else none

/-- The options among values, and the other values. -/
def among : List (String × Value) → Except OptionFault (Options × List (String × Value))
  | [] => .ok ({}, [])
  | (name, value) :: given => do
    let (options, others) ← among given
    match options.take? name value with
    | none => return (options, (name, value) :: others)
    | some taken => return (← taken, others)

/-- The options among values given by name, and the other values. -/
def ofGiven (given : List (String × Value)) : Except OptionFault (Options × List (String × Value)) :=
  if given.any (·.1 == ownName) then .error (.givenTwice ownName) else among given

end Options

end ClassChain.Settings

import ClassChain.Settings.Basic
import ClassChain.Text.Template

/-!
# Logging

A message alone is logged word for word; with values it is a template and is filled first. A template that cannot be filled is not
logged; what is wrong with it is printed instead, and so is what is wrong with a call that has no message or two. Under quiet
settings nothing is logged, and no template is looked at.
-/

namespace ClassChain.Log

/-- What one call leaves: the line logged, if any, and the text printed. -/
structure Outcome where
  line? : Option String
  printed : String
  deriving DecidableEq, Repr

/-- Why a call logs nothing. -/
inductive Fault where
  /-- There is no message. -/
  | noMessage
  /-- A value is given both in its place and by the name of that place. -/
  | givenTwice (place : String)
  /-- The message cannot be filled. -/
  | unfilled (fault : Text.Template.Fault)
  deriving DecidableEq, Repr

/-- The name of the place of the logger, which is always filled. -/
def loggerPlace : String := "_Logger__self"

/-- The name of the place of the message, which comes first. -/
def messagePlace : String := "_Logger__message"

/-- A fault in words. -/
def Fault.message : Fault → String
  | .noMessage => "Logger.debug() missing 1 required positional argument: '" ++ messagePlace ++ "'"
  | .givenTwice place => "Logger.debug() got multiple values for argument '" ++ place ++ "'"
  | .unfilled fault => fault.message

/-- The message of a call and the values for it. The message is the first of the values in places, or the value of its name. -/
def messageOf (placed : List String) (named : List (String × String)) : Except Fault (String × Text.Template.Values) :=
  let isTaken (name : String) : Bool := name == loggerPlace || (name == messagePlace && !placed.isEmpty)
  match named.find? fun v => isTaken v.1 with
  | some v => .error (.givenTwice v.1)
  | none =>
    match placed, named.lookup messagePlace with
    | message :: values, _ => .ok (message, ⟨values, named⟩)
    | [], some message => .ok (message, ⟨[], named.filter (·.1 != messagePlace)⟩)
    | [], none => .error .noMessage

/-- The line that a call logs. -/
def lineOf (placed : List String) (named : List (String × String)) : Except Fault String := do
  let (message, values) ← messageOf placed named
  if values.numbered.isEmpty ∧ values.named.isEmpty then return message
  (Text.Template.fill values message).mapError .unfilled

/-- Logs with values given in places, the message first, and values given by name. -/
def log (s : Settings) (placed : List String) (named : List (String × String)) : Outcome :=
  if s.quiet then ⟨none, ""⟩
  else
    match lineOf placed named with
    | .ok line => ⟨some line, ""⟩
    | .error fault => ⟨none, "Logging error: " ++ fault.message ++ "\n"⟩

end ClassChain.Log

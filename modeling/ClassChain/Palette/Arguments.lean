import ClassChain.Text.Likeness
import ClassChain.Text.Quoted

/-!
# Arguments of the command palette

A command knows its flags by their long names. A group reads flags only before the name of a command; a command reads them between
its arguments too. After a double dash everything is an argument. For a name that there is not, the ones like it are offered.

`flags_subset` says that only flags that a command knows are read.
-/

namespace ClassChain.Palette

/-- What is wrong with the way a command is called. -/
inductive Misuse where
  | noOption (name : String) (alike : List String)
  | noCommand (name : String) (alike : List String)
  | missingCommand
  | missingArgument (label : String)
  | extraArguments (args : List String)
  | notThere (path : String)
  | isDirectory (path : String)
  deriving DecidableEq, Repr

/-- The names that may have been meant. -/
def offer : List String → String
  | [] => ""
  | [name] => " Did you mean " ++ Text.quoted name ++ "?"
  | names => " (Did you mean one of: " ++ ", ".intercalate (names.map Text.quoted) ++ "?)"

/-- A misuse in words. -/
def Misuse.message : Misuse → String
  | .noOption name alike => "No such option " ++ Text.quoted name ++ "." ++ offer alike
  | .noCommand name alike => "No such command " ++ Text.quoted name ++ "." ++ offer alike
  | .missingCommand => "Missing command."
  | .missingArgument label => "Missing argument '" ++ label ++ "'."
  | .extraArguments args =>
    "Got unexpected extra argument" ++ (if args.length = 1 then "" else "s") ++ " (" ++ " ".intercalate args ++ ")"
  | .notThere path => "Invalid value for 'PATH': File " ++ Text.quoted path ++ " does not exist."
  | .isDirectory path => "Invalid value for 'PATH': File " ++ Text.quoted path ++ " is a directory."

/-- Why an option cannot be read. -/
inductive OptionFault where
  /-- There is no such option, but others like it. -/
  | unknown (name : String) (alike : List String)
  /-- A flag was given a value. -/
  | takesNoValue (name : String)
  deriving DecidableEq, Repr

/-- The argument is an option, not a value. -/
def isOption (arg : String) : Bool := arg.startsWith "-" && arg != "-"

/-- The flag that an option calls. -/
def flag (known : List String) (arg : String) : Except OptionFault String :=
  let cs := arg.toList
  let name := String.ofList (cs.takeWhile (· != '='))
  if known.contains name then if cs.contains '=' then .error (.takesNoValue name) else .ok name
  else if arg.startsWith "--" then .error (.unknown name (Text.Likeness.alike known name))
  else .error (.unknown (String.ofList (cs.take 2)) [])

/-- The flags that are called, in order, and the other arguments; `mixed` says that flags may follow an argument. -/
def read (known : List String) (mixed : Bool) : List String → Except OptionFault (List String × List String)
  | [] => .ok ([], [])
  | arg :: rest =>
    if arg = "--" then .ok ([], rest)
    else if isOption arg then do
      let name ← flag known arg
      let (flags, args) ← read known mixed rest
      return (name :: flags, args)
    else if mixed then do
      let (flags, args) ← read known mixed rest
      return (flags, arg :: args)
    else .ok ([], arg :: rest)

theorem mem_of_flag {known : List String} {arg name : String} (h : flag known arg = .ok name) : name ∈ known := by
  simp only [flag] at h
  split at h
  · split at h
    · simp at h
    · rename_i hc _
      simp only [Except.ok.injEq] at h
      simpa [← h] using hc
  · split at h <;> simp at h

/-- Only flags that are known are read. -/
theorem flags_subset {known args flags rest : List String} {mixed : Bool} (h : read known mixed args = .ok (flags, rest)) :
    flags ⊆ known := by
  fun_induction read known mixed args generalizing flags rest with
  | case1 => simp only [Except.ok.injEq, Prod.mk.injEq] at h; simp [← h.1]
  | case2 => simp only [Except.ok.injEq, Prod.mk.injEq] at h; simp [← h.1]
  | case3 arg args hd ho ih =>
    cases hf : flag known arg with
    | error e => simp [hf, bind, Except.bind] at h
    | ok name =>
      cases hr : read known mixed args with
      | error e => simp [hf, hr, bind, Except.bind] at h
      | ok p =>
        simp only [hf, hr, bind, Except.bind, pure, Except.pure, Except.ok.injEq, Prod.mk.injEq] at h
        rw [← h.1]
        exact List.cons_subset.mpr ⟨mem_of_flag hf, ih hr⟩
  | case4 arg args hd ho hm ih =>
    cases hr : read known mixed args with
    | error e => simp [hr, bind, Except.bind] at h
    | ok p =>
      simp only [hr, bind, Except.bind, pure, Except.pure, Except.ok.injEq, Prod.mk.injEq] at h
      rw [← h.1]
      exact ih hr
  | case5 => simp only [Except.ok.injEq, Prod.mk.injEq] at h; simp [← h.1]

end ClassChain.Palette

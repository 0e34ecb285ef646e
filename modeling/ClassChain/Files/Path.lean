import ClassChain.Text.Split

/-!
# Paths

A path is a chain of steps from where the program stands or from the root. Steps that lead nowhere (`.` and doubled slashes) are
dropped when a path is read; steps upwards stay, since a link may stand before them.

`here_not_mem_stepsOf` says that a path that was read has no step that stays where it is.
-/

namespace ClassChain.Files

/-- The text can name an entry of a directory. -/
def isName (text : String) : Bool := text != "" && text != "." && text != ".." && !text.toList.contains '/'

/-- The name of an entry of a directory. -/
structure Name where
  text : String
  isName_text : isName text = true
  deriving DecidableEq

instance : Repr Name := ⟨fun n _ => repr n.text⟩

theorem Name.ext_text {a b : Name} (h : a.text = b.text) : a = b := by
  cases a; cases b; simp_all

/-- Names are ordered as their texts are. -/
instance : Ord Name := ⟨fun a b => compare a.text b.text⟩

instance : Std.TransOrd Name where
  eq_swap := by intro a b; exact @Std.OrientedCmp.eq_swap String compare _ _ _
  isLE_trans := by intro a b c; exact @Std.TransCmp.isLE_trans String compare _ _ _ _

instance : Std.LawfulEqOrd Name where
  compare_self := by intro a; exact @Std.ReflCmp.compare_self String compare _ _
  eq_of_compare := by
    intro a b h
    exact Name.ext_text (@Std.LawfulEqCmp.eq_of_compare String compare _ _ _ h)

/-- The greatest number of bytes in the name of an entry. -/
def nameLimit : Nat := 255

/-- A directory can hold an entry of the name: it is not too long, and no null character is in it. -/
def Name.fits (n : Name) : Bool := n.text.utf8ByteSize ≤ nameLimit && !n.text.toList.contains '\x00'

/-- A step of a path. -/
inductive Step where
  /-- Stays in the directory; what comes before must be one. -/
  | here
  /-- Ends the way in a directory: it is written as a slash at the end. -/
  | close
  /-- Goes to the directory above. -/
  | up
  /-- Goes into an entry. -/
  | into (name : Name)
  deriving DecidableEq, Repr

/-- A step as it is written. -/
def Step.text : Step → String
  | .here => "."
  | .close => ""
  | .up => ".."
  | .into name => name.text

/-- The step that a text between slashes stands for; none if it leads nowhere. -/
def Step.ofText? (text : String) : Option Step :=
  if text = ".." then some .up else if h : isName text = true then some (.into ⟨text, h⟩) else none

/-- The steps of a text. -/
def stepsOf (text : String) : List Step :=
  (Text.splitWhere (· == '/') text.toList).filterMap fun part => Step.ofText? (String.ofList part)

theorem here_not_mem_stepsOf (text : String) : Step.here ∉ stepsOf text := by
  simp only [stepsOf, List.mem_filterMap, not_exists, not_and]
  intro part _ h
  simp only [Step.ofText?] at h
  split at h
  · simp at h
  · split at h <;> simp at h

/-- Where a path starts. -/
inductive Anchor where
  /-- Where the program stands. -/
  | standing
  /-- At the root. -/
  | root
  /-- At the root, written with two slashes. -/
  | doubleRoot
  deriving DecidableEq, Repr

/-- The start of a path as it is written. -/
def Anchor.text : Anchor → String
  | .standing => ""
  | .root => "/"
  | .doubleRoot => "//"

/-- The start of a text: exactly two slashes are not the same as one or more. -/
def Anchor.ofText (text : String) : Anchor :=
  match (text.toList.takeWhile (· == '/')).length with
  | 0 => .standing
  | 2 => .doubleRoot
  | _ => .root

/-- A path in its normal form. -/
structure Path where
  anchor : Anchor
  steps : List Step
  deriving DecidableEq, Repr

/-- Reads a path. -/
def Path.ofText (text : String) : Path := ⟨Anchor.ofText text, stepsOf text⟩

/-- A path as it is written; a path without steps is a dot. -/
def Path.text (p : Path) : String :=
  match p.anchor, p.steps with
  | .standing, [] => "."
  | anchor, steps => anchor.text ++ "/".intercalate (steps.map Step.text)

/-- The path to where the last step starts; a path without steps stays. -/
def Path.parent (p : Path) : Path := { p with steps := p.steps.dropLast }

/-- A path continued through entries. -/
def Path.append (p : Path) (names : List Name) : Path := { p with steps := p.steps ++ names.map Step.into }

/-- The path holds a null character, which no file can be named with. -/
def Path.hasNull (p : Path) : Bool := p.text.toList.contains '\x00'

@[simp] theorem Path.append_nil (p : Path) : p.append [] = p := by simp [Path.append]

/-- The way to walk for a path or the target of a link. -/
structure Route where
  /-- The way starts at the root. -/
  fromRoot : Bool
  steps : List Step
  deriving DecidableEq, Repr

/-- The way of a path. -/
def Path.route (p : Path) : Route := ⟨p.anchor != .standing, p.steps⟩

/-- The step that a text ends in when its last part is a dot, or when a slash follows its last part. -/
def lastSteps (text : String) : List Step :=
  let slashes := text.toList.reverse.takeWhile (· == '/')
  match text.toList.reverse.dropWhile (· == '/') with
  | ['.'] | '.' :: '/' :: _ => [.here]
  | _ => if slashes.isEmpty then [] else [.close]

/-- The way that a text names as it stands; when it ends in a slash it ends in a directory. -/
def Route.ofText (text : String) : Route := ⟨Anchor.ofText text != .standing, stepsOf text ++ lastSteps text⟩

end ClassChain.Files

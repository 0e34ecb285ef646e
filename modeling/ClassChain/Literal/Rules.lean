import ClassChain.Literal.Token
import Std.Data.HashMap

/-!
# Reading by rules

Words are read by rules: a rule says which words and which other rules follow each other, with choices, options and repetitions.
Of several choices the first that fits is taken, and looking ahead takes nothing. What was read is a tree. Rules stand in each
other no deeper than there is room for.

A second reading of the same words looks for known mistakes too. A rule that finds one gives the hint; one that recognises words
but has nothing to say of them does not fit, and neither do its later choices.
-/

namespace ClassChain.Literal

/-- What a node of a tree is. -/
inductive Kind where
  | attribute
  | call
  | argument
  | unpacked
  | starred
  | tuple
  | set
  | dictionary
  | pair
  | sum
  | signed
  | operation
  | comparison
  | conditional
  | function
  | assignment
  | yielded
  | awaited
  | generator
  | setComprehension
  | dictComprehension
  | applied
  | texts
  deriving DecidableEq, Repr

/-- What was read. -/
inductive Tree where
  | leaf (t : Token)
  | node (kind : Kind) (parts : List Tree)

/-- The word where a fault is. -/
inductive Site where
  /-- The first of the words that were read. -/
  | start
  /-- The last of them. -/
  | last
  /-- The last that was looked at. -/
  | reached
  deriving DecidableEq, Repr

/-- What rules are made of; `ρ` names the rules. -/
inductive Pattern (ρ : Type) where
  /-- A word that fits. -/
  | word (fits : Word → Bool)
  /-- What another rule reads. -/
  | rule (r : ρ)
  /-- One after another. -/
  | all (ps : List (Pattern ρ))
  /-- The first that fits. -/
  | first (ps : List (Pattern ρ))
  /-- Any number of times. -/
  | many (p : Pattern ρ)
  /-- Looks ahead for it. -/
  | ahead (p : Pattern ρ)
  /-- Looks ahead for something else. -/
  | absent (p : Pattern ρ)
  /-- Leaves it out of the tree. -/
  | bare (p : Pattern ρ)
  /-- Makes it a node. -/
  | made (kind : Kind) (p : Pattern ρ)
  /-- Makes it a node unless it is a single tree. -/
  | joined (kind : Kind) (p : Pattern ρ)
  /-- Reads it and looks for a fault in it. -/
  | checked (fault? : List Tree → Option Fault) (p : Pattern ρ)
  /-- Recognises a mistake, and gives the fault if there is something to say of it; the last word is given too. -/
  | mistake (site : Site) (fault? : List Tree → Token → Option Fault) (p : Pattern ρ)
  /-- Counts in the second reading only. -/
  | late (p : Pattern ρ)
  /-- Looks for no mistakes in it. -/
  | plain (p : Pattern ρ)
  /-- Allows no other choice once the rest has to follow. -/
  | settled (p : Pattern ρ)

/-- What reading by a pattern comes to. -/
inductive Outcome where
  /-- What was read, and the place after it. -/
  | fits (trees : List Tree) (next : Nat)
  | differs
  /-- It does not fit, and no other choice is allowed. -/
  | excluded
  /-- A fault, and the word where it is. -/
  | faulty (fault : Fault) (site? : Option Token)
  /-- The words end here before their time. -/
  | stopped (fault : Fault)

/-- What readings have found so far. -/
structure Progress (ρ : Type) [BEq ρ] [Hashable ρ] where
  /-- The number of words that were looked at. -/
  reach : Nat := 0
  /-- What rules came to at places; the switch tells whether mistakes were looked for. -/
  known : Std.HashMap (ρ × Nat × Bool) Outcome := {}

/-- Rules by their names, and which of them are remembered no matter whether mistakes were looked for. -/
structure Grammar (ρ : Type) where
  pattern : ρ → Pattern ρ
  isShared : ρ → Bool

variable {ρ : Type} [BEq ρ] [Hashable ρ]

/-- How many rules may stand in each other. -/
def levelLimit : Nat := 6000

/-- The word of a site, for words from a place to before another. -/
def Site.token? (site : Site) (found : Array Token) (place next reach : Nat) : Option Token :=
  match site with
  | .start => found[place]?
  | .last => found[next - 1]?
  | .reached => found[reach - 1]?

/-- Takes the word at a place if it fits. -/
def takeWord (words : Tokens) (found : Array Token) (fits : Word → Bool) (place : Nat) (progress : Progress ρ) :
    Outcome × Progress ρ :=
  let progress := { progress with reach := max progress.reach (place + 1) }
  match found[place]?, words.stop? with
  | some token, _ => (if fits token.word then .fits [.leaf token] (place + 1) else .differs, progress)
  | none, some stop => (.stopped stop.fault, progress)
  | none, none => (.differs, progress)

/-- Reads by a pattern inside so many rules, in patterns inside patterns at most so deep. -/
def Grammar.readWithin (g : Grammar ρ) (words : Tokens) (found : Array Token) (depth level : Nat) (seeksMistakes : Bool)
    (p : Pattern ρ) (place : Nat) (progress : Progress ρ) : Outcome × Progress ρ :=
  match depth with
  | 0 => (.differs, progress)
  | depth + 1 =>
    let read (p : Pattern ρ) := g.readWithin words found depth level seeksMistakes p
    match p with
    | .word fits => takeWord words found fits place progress
    | .rule r =>
      if levelLimit ≤ level then (.stopped .tooDeep, progress)
      else
        let key := (r, place, g.isShared r || seeksMistakes)
        match progress.known[key]? with
        | some outcome => (outcome, progress)
        | none =>
          let (outcome, progress) := g.readWithin words found depth (level + 1) seeksMistakes (g.pattern r) place progress
          let outcome := match outcome with
            | .excluded => .differs
            | _ => outcome
          (outcome, { progress with known := progress.known.insert key outcome })
    | .all [] => (.fits [] place, progress)
    | .all (p :: ps) =>
      match read p place progress with
      | (.fits trees next, progress) =>
        match read (.all ps) next progress with
        | (.fits more last, progress) => (.fits (trees ++ more) last, progress)
        | other => other
      | other => other
    | .first [] => (.differs, progress)
    | .first (p :: ps) =>
      match read p place progress with
      | (.differs, progress) => read (.first ps) place progress
      | other => other
    | .many p =>
      match read p place progress with
      | (.fits trees next, progress) =>
        if next ≤ place then (.fits [] place, progress)
        else
          match read (.many p) next progress with
          | (.fits more last, progress) => (.fits (trees ++ more) last, progress)
          | other => other
      | (.differs, progress) => (.fits [] place, progress)
      | other => other
    | .ahead p =>
      match read p place progress with
      | (.fits _ _, progress) => (.fits [] place, progress)
      | other => other
    | .absent p =>
      match read p place progress with
      | (.fits _ _, progress) => (.differs, progress)
      | (.differs, progress) => (.fits [] place, progress)
      | other => other
    | .bare p =>
      match read p place progress with
      | (.fits _ next, progress) => (.fits [] next, progress)
      | other => other
    | .made kind p =>
      match read p place progress with
      | (.fits trees next, progress) => (.fits [.node kind trees] next, progress)
      | other => other
    | .joined kind p =>
      match read p place progress with
      | (.fits [tree] next, progress) => (.fits [tree] next, progress)
      | (.fits trees next, progress) => (.fits [.node kind trees] next, progress)
      | other => other
    | .checked fault? p =>
      match read p place progress with
      | (.fits trees next, progress) =>
        match fault? trees with
        | some fault => (.faulty fault (Site.reached.token? found place next progress.reach), progress)
        | none => (.fits trees next, progress)
      | other => other
    | .mistake site fault? p =>
      match read p place progress with
      | (.fits trees next, progress) =>
        match found[next - 1]?.bind (fault? trees) with
        | some fault => (.faulty fault (site.token? found place next progress.reach), progress)
        | none => (.excluded, progress)
      | other => other
    | .late p => if seeksMistakes then read p place progress else (.differs, progress)
    | .plain p => g.readWithin words found depth level false p place progress
    | .settled p =>
      match read p place progress with
      | (.differs, progress) => (.excluded, progress)
      | other => other

end ClassChain.Literal

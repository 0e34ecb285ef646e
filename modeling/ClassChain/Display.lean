import ClassChain.Markup.Drawing

/-!
# What is shown

A line of markup, a table or a panel. Nothing is shown whose markup has a fault.

`showAll_of_no_fault` says that without faults everything is shown, in order.
-/

namespace ClassChain

/-- A table of two columns with a title. -/
structure Table where
  title : String
  columns : String × String
  rows : List (String × String)
  deriving DecidableEq, Repr

/-- Something shown to the user. -/
inductive Display where
  /-- A line of markup. -/
  | line (markup : String)
  /-- A table whose cells are markup. -/
  | table (t : Table)
  /-- Markup in a frame of a width. -/
  | panel (markup : String) (width : Nat)
  deriving DecidableEq, Repr

/-- The width of what lines are shown in. -/
def screenWidth : Nat := 80

/-- The texts of markup in it, in the order in which they are laid out; a table is laid out column by column. -/
def Display.markups : Display → List String
  | .line markup => [markup]
  | .table t => t.columns.1 :: t.rows.map (·.1) ++ t.columns.2 :: t.rows.map (·.2)
  | .panel markup _ => [markup]

/-- The width in which a text of it is drawn: a frame takes two columns on each side and is no wider than its text asks for. -/
def Display.widthOf : Display → Markup.Shown → Nat
  | .panel _ width, text => min text.width (min width screenWidth - 4)
  | _, _ => screenWidth

/-- What is wrong with the markup of a text. -/
def markupFault? (markup : String) : Option Markup.Fault :=
  match Markup.read markup.toList with
  | .ok _ => none
  | .error fault => some fault

/-- What is wrong with the styles of a text that is drawn. -/
def Display.styleFault? (d : Display) (markup : String) : Option Markup.Fault :=
  match Markup.read markup.toList with
  | .ok text => text.fault? (d.widthOf text)
  | .error _ => none

/-- What is wrong with its markup, or else with the styles, which are needed to draw it. -/
def Display.fault? (d : Display) : Option Markup.Fault :=
  (d.markups.findSome? markupFault?).orElse fun _ => d.markups.findSome? d.styleFault?

/-- What is shown where no styles, borders and widths can be. -/
def Display.plainText : Display → String
  | .line markup => Markup.unstyled markup ++ "\n"
  | .table t =>
    let row (cells : String × String) : String := Markup.unstyled cells.1 ++ "\t" ++ Markup.unstyled cells.2 ++ "\n"
    t.title ++ "\n" ++ row t.columns ++ String.join (t.rows.map row)
  | .panel markup _ => Markup.unstyled markup ++ "\n"

/-- What was shown, and the fault that stopped it, if any. -/
structure Showing where
  shown : List Display
  fault? : Option Markup.Fault
  deriving DecidableEq, Repr

/-- Shows one after another up to the first with a fault. -/
def showAll : List Display → Showing
  | [] => ⟨[], none⟩
  | d :: rest =>
    match d.fault? with
    | some fault => ⟨[], some fault⟩
    | none => let others := showAll rest; ⟨d :: others.shown, others.fault?⟩

/-- Without faults everything is shown. -/
theorem showAll_of_no_fault {ds : List Display} (h : ∀ d ∈ ds, d.fault? = none) : showAll ds = ⟨ds, none⟩ := by
  induction ds with
  | nil => rfl
  | cons d ds ih =>
    simp only [List.mem_cons, forall_eq_or_imp] at h
    simp [showAll, h.1, ih h.2]

/-- Markup in a style. -/
def styled (style markup : String) : String := "[" ++ style ++ "]" ++ markup ++ "[/" ++ style ++ "]"

end ClassChain

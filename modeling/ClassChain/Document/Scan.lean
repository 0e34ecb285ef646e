import ClassChain.Document.Attribute
import ClassChain.Text.Blank

/-!
# Scanning a document

A document is cut from left to right into pieces: attributes, bare runs without blanks, and single characters that belong to
neither. An attribute is taken wherever the text opens with one. When only attributes are wanted every other character is passed
over; otherwise the longest run up to a blank is taken, with any attribute inside it.

`render_scan` says that the pieces are the document.
-/

namespace ClassChain.Document

/-- What of a document is expanded. -/
inductive Mode where
  /-- Attribute values word by word, and every other run as one token: for markup and templates. -/
  | everything
  /-- Attribute values only: for scripts, where a bare delimiter is code. -/
  | attributesOnly
  deriving DecidableEq, Repr

/-- A piece of a document. -/
inductive Piece where
  /-- A character outside all attributes and runs. -/
  | gap (c : Char)
  /-- A longest run without blanks. -/
  | bare (run : List Char)
  /-- A name with a quoted value. -/
  | attr (a : Attribute)
  deriving DecidableEq, Repr

/-- The piece as it is written. -/
def Piece.text : Piece → List Char
  | .gap c => [c]
  | .bare run => run
  | .attr a => a.text

/-- The document that pieces make up. -/
def render (pieces : List Piece) : List Char := pieces.flatMap Piece.text

/-- A character that does not end a run. -/
def isInk (c : Char) : Bool := !Text.isBlank c

/-- The pieces of a document. -/
def scan (mode : Mode) (cs : List Char) : List Piece :=
  match cs with
  | [] => []
  | c :: rest =>
    match _h : attribute? (c :: rest) with
    | some (a, after) => .attr a :: scan mode after
    | none =>
      if mode = .attributesOnly ∨ Text.isBlank c then .gap c :: scan mode rest
      else .bare (c :: rest.takeWhile isInk) :: scan mode (rest.dropWhile isInk)
termination_by cs.length
decreasing_by
  · exact length_lt_of_attribute? _h
  · simp
  · have := (List.dropWhile_suffix (p := isInk) (l := rest)).length_le
    simp only [List.length_cons]
    omega

@[simp] theorem scan_nil (mode : Mode) : scan mode [] = [] := by rw [scan]

theorem scan_of_attribute {mode : Mode} {cs after : List Char} {a : Attribute} (h : attribute? cs = some (a, after)) :
    scan mode cs = .attr a :: scan mode after := by
  match cs with
  | [] => simp [attribute?] at h
  | c :: rest => rw [scan]; split <;> simp_all

theorem scan_of_gap {mode : Mode} {c : Char} {rest : List Char} (h : attribute? (c :: rest) = none)
    (hc : mode = .attributesOnly ∨ Text.isBlank c = true) : scan mode (c :: rest) = .gap c :: scan mode rest := by
  rw [scan]
  split <;> simp_all

theorem scan_of_bare {c : Char} {rest : List Char} (h : attribute? (c :: rest) = none) (hc : Text.isBlank c = false) :
    scan .everything (c :: rest) = .bare (c :: rest.takeWhile isInk) :: scan .everything (rest.dropWhile isInk) := by
  rw [scan]
  split <;> simp_all

/-- The pieces of a document are the document. -/
theorem render_scan (mode : Mode) (cs : List Char) : render (scan mode cs) = cs := by
  unfold render
  fun_induction scan mode cs with
  | case1 => rfl
  | case2 c rest a after h ih => rw [List.flatMap_cons, ih, Piece.text, append_of_attribute? h]
  | case3 c rest h hc ih => rw [List.flatMap_cons, ih]; rfl
  | case4 c rest h hc ih =>
    rw [List.flatMap_cons, ih, Piece.text, List.cons_append, List.takeWhile_append_dropWhile]

/-- The attributes and runs with the places where they start, when the first piece starts at `start`. -/
def unitsFrom (start : Nat) : List Piece → List (Nat × Piece)
  | [] => []
  | .gap _ :: pieces => unitsFrom (start + 1) pieces
  | piece :: pieces => (start, piece) :: unitsFrom (start + piece.text.length) pieces

/-- The attributes and runs of a document with the places where they start. -/
def units (mode : Mode) (cs : List Char) : List (Nat × Piece) := unitsFrom 0 (scan mode cs)

end ClassChain.Document

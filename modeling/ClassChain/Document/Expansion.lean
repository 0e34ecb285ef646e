import ClassChain.Document.Scan
import ClassChain.Chain.Expansion

/-!
# Expansion of a document

Every attribute value is written out word by word and every bare run as one token; all else stays as it is.
-/

namespace ClassChain.Document

/-- An attribute with its value written out. -/
def Attribute.expand (a : Attribute) : Attribute := { a with value := Chain.expandWords a.value }

/-- What a piece is rewritten to. -/
def Piece.expanded : Piece → List Char
  | .gap c => [c]
  | .bare run => Chain.expand run
  | .attr a => a.expand.text

/-- A document with all its chains written out. -/
def expand (mode : Mode) (cs : List Char) : List Char := (scan mode cs).flatMap Piece.expanded

/-- The text of a document with all its chains written out. -/
def expandText (mode : Mode) (text : String) : String := String.ofList (expand mode text.toList)

@[simp] theorem toList_expandText (mode : Mode) (text : String) : (expandText mode text).toList = expand mode text.toList := by
  simp [expandText]

/-- A piece that no chain stands in is written as it was. -/
theorem Piece.expanded_eq_text {piece : Piece} (h : Chain.delimiter ∉ piece.text) : piece.expanded = piece.text := by
  cases piece with
  | gap c => rfl
  | bare run => exact Chain.expand_of_not_mem h
  | attr a =>
    have hv : Chain.delimiter ∉ a.value := fun hm => h (by simp [Piece.text, Attribute.text, hm])
    simp [Piece.expanded, Piece.text, Attribute.expand, Chain.expandWords_eq_self hv]

/-- A document without a delimiter stays as it is. -/
theorem expand_of_not_mem {mode : Mode} {cs : List Char} (h : Chain.delimiter ∉ cs) : expand mode cs = cs := by
  conv => rhs; rw [← render_scan mode cs]
  rw [← render_scan mode cs] at h
  unfold expand render at *
  generalize scan mode cs = pieces at h ⊢
  induction pieces with
  | nil => rfl
  | cons piece pieces ih =>
    simp only [List.flatMap_cons, List.mem_append, not_or] at h ⊢
    rw [Piece.expanded_eq_text h.1, ih h.2]

end ClassChain.Document

/-!
# Alike words

How alike two words are: the characters of their longest common block are matched, and then in the same way what stands before the
block in both and what stands after it. Two words are alike when the matched characters are at least three fifths of all.
-/

namespace ClassChain.Text.Likeness

/-- The length of the part with which both texts open. -/
def opening : List Char → List Char → Nat
  | a :: as, b :: bs => if a = b then opening as bs + 1 else 0
  | _, _ => 0

/-- A block that two texts have in common: where it starts in both, and its length. -/
structure Block where
  first : Nat
  second : Nat
  length : Nat
  deriving DecidableEq, Repr

/-- The longer of two blocks; of blocks as long as each other the first. -/
def longer (a b : Block) : Block := if a.length < b.length then b else a

/-- The longest common block; of several the one that starts first in the first text, then in the second. -/
def longest (as bs : List Char) : Block :=
  (List.range as.length).foldl (fun best i =>
    (List.range bs.length).foldl (fun best j => longer best ⟨i, j, opening (as.drop i) (bs.drop j)⟩) best) ⟨0, 0, 0⟩

/-- How many characters of two texts are matched, going on in at most so many blocks. -/
def matchedWithin : Nat → List Char → List Char → Nat
  | 0, _, _ => 0
  | blocks + 1, as, bs =>
    let block := longest as bs
    if block.length = 0 then 0
    else
      matchedWithin blocks (as.take block.first) (bs.take block.second) + block.length +
        matchedWithin blocks (as.drop (block.first + block.length)) (bs.drop (block.second + block.length))

/-- How many characters of two texts are matched. -/
def matched (as bs : List Char) : Nat := matchedWithin as.length as bs

/-- Two words are alike. No more characters are matched than the known word has, so much longer words need no look. -/
def isAlike (known given : String) : Bool :=
  let all := known.length + given.length
  3 * all ≤ 10 * known.length && 3 * all ≤ 10 * matched known.toList given.toList

/-- The known words that are like a word, in order. -/
def alike (known : List String) (given : String) : List String := (known.filter (isAlike · given)).mergeSort (· ≤ ·)

end ClassChain.Text.Likeness

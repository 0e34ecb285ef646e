import ClassChain.Text.CharacterName.Listed
import ClassChain.Text.Ranges

/-!
# Names of characters

The names by which characters can be asked for, those of version 14 of the standard. Most names are listed. The names of Korean
syllables are made of the sounds of the syllable, and those of Chinese characters of their numbers.
-/

namespace ClassChain.Text.CharacterName

/-! ## Listed names -/

/-- How much of the name before is kept, by a small letter. -/
def shareOf (c : Char) : Nat := c.toNat - 'a'.toNat

/-- The entries of a line: how much of the name before is kept, the sum of the letters, and the rest of the name. -/
def entriesOf (line : String) : List (Nat × List Char) :=
  let step (c : Char) : List (Nat × List Char) × List Char → List (Nat × List Char) × List Char
    | (entries, rest) =>
      if c.isLower then
        match rest, entries with
        | [], (shared, rest) :: entries => ((shareOf c + shared, rest) :: entries, [])
        | _, _ => ((shareOf c, rest) :: entries, [])
      else (entries, c :: rest)
  (line.toList.foldr step ([], [])).1

/-- The names that entries write after a name. -/
def expand (before : List Char) : List (Nat × List Char) → List (List Char)
  | [] => []
  | (shared, rest) :: entries =>
    let name := before.take shared ++ rest
    name :: expand name entries

/-- Whether lines hold a name, after a name that stands before them. -/
def isAmong (name before : List Char) : List String → Bool
  | [] => false
  | line :: lines =>
    let names := expand before (entriesOf line)
    names.contains name || isAmong name (names.getLastD before) lines

/-- Whether a name in capitals is listed. -/
def isListed (name : List Char) : Bool :=
  isAmong name [] (firstQuarter ++ secondQuarter ++ thirdQuarter ++ fourthQuarter)

/-! ## Names made by rules -/

/-- The sounds that Korean syllables begin with. -/
def leads : List String :=
  ["G", "GG", "N", "D", "DD", "R", "M", "B", "BB", "S", "SS", "", "J", "JJ", "C", "K", "T", "P", "H"]

/-- The vowels of Korean syllables. -/
def vowels : List String :=
  ["A", "AE", "YA", "YAE", "EO", "E", "YEO", "YE", "O", "WA", "WAE", "OE", "YO", "U", "WEO", "WE", "WI", "YU", "EU", "YI", "I"]

/-- The sounds that Korean syllables end with. -/
def tails : List String :=
  ["", "G", "GG", "GS", "N", "NJ", "NH", "D", "L", "LG", "LM", "LB", "LS", "LT", "LP", "LH", "M", "B", "BS", "S", "SS", "NG",
    "J", "C", "K", "T", "P", "H"]

/-- What follows the longest of several sounds that text opens with. -/
def afterLongest? (sounds : List String) (cs : List Char) : Option (List Char) :=
  match (sounds.map String.toList).filter (·.isPrefixOf cs) with
  | [] => none
  | s :: more => some (cs.drop (more.foldl (fun longest s => max longest s.length) s.length))

/-- Whether text spells a Korean syllable: each sound is the longest that fits. -/
def isSyllable (cs : List Char) : Bool :=
  ((afterLongest? leads cs).bind fun cs => (afterLongest? vowels cs).bind (afterLongest? tails)) == some []

/-- The numbers of the Chinese characters that are named by number. -/
def ideographRanges : Ranges := [
  (0x3400, 0x4DBF), (0x4E00, 0x9FFF), (0x20000, 0x2A6DF), (0x2A700, 0x2B738), (0x2B740, 0x2B81D), (0x2B820, 0x2CEA1),
  (0x2CEB0, 0x2EBE0), (0x30000, 0x3134A)]

/-- The value of a capital hexadecimal digit. -/
def digitOf? (c : Char) : Option Nat :=
  if c.isDigit then some (c.toNat - '0'.toNat)
  else if 'A' ≤ c ∧ c ≤ 'F' then some (c.toNat - 'A'.toNat + 10)
  else none

/-- Whether text is the number of such a character, in four or five digits. -/
def isIdeograph (cs : List Char) : Bool :=
  (cs.length == 4 || cs.length == 5) &&
    match cs.mapM digitOf? with
    | some digits => ideographRanges.holds (digits.foldl (fun n d => 16 * n + d) 0)
    | none => false

end CharacterName

/-- The name of a character. Small letters count as capitals, but not in names that are made by rules. -/
def isCharacterName (name : List Char) : Bool :=
  if "HANGUL SYLLABLE ".toList.isPrefixOf name then CharacterName.isSyllable (name.drop 16)
  else if "CJK UNIFIED IDEOGRAPH-".toList.isPrefixOf name then CharacterName.isIdeograph (name.drop 22)
  else CharacterName.isListed (name.map Char.toUpper)

end ClassChain.Text

import ClassChain.Proofs.Document.Attribute

/-!
# The patterns of a document

What is searched for in a document can be written as a pattern: a character of a class, characters of a class, as many or as few as
can be, one pattern after another, one or else another, a group that keeps what was matched, and the text of a group once more. A
pattern can match the start of a text in several ways, for a run may stop early and an alternative may be left. `Pattern.ways` lists
them all in the order in which they are preferred, and the match is the first of them.

In the pattern of attributes the ways hardly differ. A name that stops early is followed by no equals sign, so only the longest goes
on; and a value that passes a closing mark is never preferred. So the match is the attribute that is read from the text, if there is
one, and if there is none no way is left at all: `match?_attributePattern`.
-/

namespace ClassChain.Document

/-! ## Patterns and their ways -/

/-- The groups that keep parts of a match. -/
inductive Slot where
  | name
  | quote
  | value
  | bare
  deriving DecidableEq, Repr

/-- What is searched for in a text. -/
inductive Pattern where
  /-- One character of a class. -/
  | one (test : Char → Bool)
  /-- Characters of a class, as many as can be. -/
  | most (test : Char → Bool)
  /-- Characters of a class, as few as can be. -/
  | fewest (test : Char → Bool)
  /-- One pattern and after it another. -/
  | followed (first second : Pattern)
  /-- One pattern or else another. -/
  | orElse (first second : Pattern)
  /-- A pattern whose text is kept in a group. -/
  | kept (slot : Slot) (inner : Pattern)
  /-- The text of a group once more. -/
  | again (slot : Slot)

/-- The texts of the groups that were matched. -/
abbrev Groups := Slot → Option (List Char)

def Groups.empty : Groups := fun _ => none

def Groups.set (groups : Groups) (slot : Slot) (text : List Char) : Groups :=
  fun other => if other = slot then some text else groups other

/-- What a pattern matched. -/
structure Match where
  text : List Char
  groups : Groups

/-- All ways to cut characters of a class off a text, the shortest first. -/
def cuts (test : Char → Bool) : List Char → List (List Char × List Char)
  | [] => [([], [])]
  | c :: cs => ([], c :: cs) :: if test c then (cuts test cs).map fun cut => (c :: cut.1, cut.2) else []

/-- All ways in which a pattern matches the start of a text, with the text that follows each, the preferred ones first. -/
def Pattern.ways : Pattern → Groups → List Char → List (Match × List Char)
  | .one test, groups, cs =>
    match cs with
    | [] => []
    | c :: rest => if test c then [(⟨[c], groups⟩, rest)] else []
  | .most test, groups, cs => (cuts test cs).reverse.map fun cut => (⟨cut.1, groups⟩, cut.2)
  | .fewest test, groups, cs => (cuts test cs).map fun cut => (⟨cut.1, groups⟩, cut.2)
  | .followed first second, groups, cs =>
    (first.ways groups cs).flatMap fun way =>
      (second.ways way.1.groups way.2).map fun next => (⟨way.1.text ++ next.1.text, next.1.groups⟩, next.2)
  | .orElse first second, groups, cs => first.ways groups cs ++ second.ways groups cs
  | .kept slot inner, groups, cs =>
    (inner.ways groups cs).map fun way => (⟨way.1.text, way.1.groups.set slot way.1.text⟩, way.2)
  | .again slot, groups, cs =>
    match groups slot with
    | some text => if text.isPrefixOf cs then [(⟨text, groups⟩, cs.drop text.length)] else []
    | none => []

/-- The match of a pattern at the start of a text, with the text that follows it. -/
def Pattern.match? (p : Pattern) (cs : List Char) : Option (Match × List Char) := (p.ways .empty cs).head?

/-- A pattern that matches no empty text, as its form tells. -/
def Pattern.consumes : Pattern → Bool
  | .one _ => true
  | .most _ | .fewest _ | .again _ => false
  | .followed first second => first.consumes || second.consumes
  | .orElse first second => first.consumes && second.consumes
  | .kept _ inner => inner.consumes

theorem append_of_mem_cuts {test : Char → Bool} {cs : List Char} {cut : List Char × List Char} (h : cut ∈ cuts test cs) :
    cut.1 ++ cut.2 = cs := by
  induction cs generalizing cut with
  | nil =>
    obtain rfl := List.mem_singleton.mp h
    rfl
  | cons c cs ih =>
    rw [cuts] at h
    rcases List.mem_cons.mp h with rfl | h
    · rfl
    · split at h
      · obtain ⟨shorter, hshorter, rfl⟩ := List.mem_map.mp h
        rw [List.cons_append, ih hshorter]
      · cases h

/-- What a pattern matches and what follows it are the text. -/
theorem Pattern.append_of_mem_ways {p : Pattern} {groups : Groups} {cs : List Char} {way : Match × List Char}
    (h : way ∈ p.ways groups cs) : way.1.text ++ way.2 = cs := by
  induction p generalizing groups cs way with
  | one test =>
    cases cs with
    | nil => cases h
    | cons c rest =>
      rw [ways] at h
      split at h
      · obtain rfl := List.mem_singleton.mp h
        rfl
      · cases h
  | most test =>
    obtain ⟨cut, hcut, rfl⟩ := List.mem_map.mp h
    exact append_of_mem_cuts (List.mem_reverse.mp hcut)
  | fewest test =>
    obtain ⟨cut, hcut, rfl⟩ := List.mem_map.mp h
    exact append_of_mem_cuts hcut
  | followed first second ihfirst ihsecond =>
    obtain ⟨before, hbefore, hway⟩ := List.mem_flatMap.mp h
    obtain ⟨after, hafter, rfl⟩ := List.mem_map.mp hway
    rw [List.append_assoc, ihsecond hafter, ihfirst hbefore]
  | orElse first second ihfirst ihsecond =>
    rcases List.mem_append.mp h with h | h
    · exact ihfirst h
    · exact ihsecond h
  | kept slot inner ih =>
    obtain ⟨within, hwithin, rfl⟩ := List.mem_map.mp h
    change within.1.text ++ within.2 = cs
    exact ih hwithin
  | again slot =>
    rw [ways] at h
    split at h
    · rename_i text _
      split at h
      · rename_i hprefix
        obtain rfl := List.mem_singleton.mp h
        obtain ⟨rest, rfl⟩ := List.isPrefixOf_iff_prefix.mp hprefix
        rw [List.drop_left]
      · cases h
    · cases h

/-- A pattern that consumes leaves less of the text. -/
theorem Pattern.ne_nil_of_mem_ways {p : Pattern} (hp : p.consumes = true) {groups : Groups} {cs : List Char}
    {way : Match × List Char} (h : way ∈ p.ways groups cs) : way.1.text ≠ [] := by
  induction p generalizing groups cs way with
  | one test =>
    cases cs with
    | nil => cases h
    | cons c rest =>
      rw [ways] at h
      split at h
      · obtain rfl := List.mem_singleton.mp h
        exact List.cons_ne_nil c []
      · cases h
  | most test => cases hp
  | fewest test => cases hp
  | followed first second ihfirst ihsecond =>
    obtain ⟨before, hbefore, hway⟩ := List.mem_flatMap.mp h
    obtain ⟨after, hafter, rfl⟩ := List.mem_map.mp hway
    rcases Bool.or_eq_true_iff.mp hp with hfirst | hsecond
    · exact List.append_ne_nil_of_left_ne_nil (ihfirst hfirst hbefore) _
    · exact List.append_ne_nil_of_right_ne_nil _ (ihsecond hsecond hafter)
  | orElse first second ihfirst ihsecond =>
    obtain ⟨hfirst, hsecond⟩ := Bool.and_eq_true_iff.mp hp
    rcases List.mem_append.mp h with h | h
    · exact ihfirst hfirst h
    · exact ihsecond hsecond h
  | kept slot inner ih =>
    obtain ⟨within, hwithin, rfl⟩ := List.mem_map.mp h
    change within.1.text ≠ []
    exact ih hp hwithin
  | again slot => cases hp

theorem Pattern.length_lt_of_match? {p : Pattern} (hp : p.consumes = true) {cs : List Char} {found : Match × List Char}
    (h : p.match? cs = some found) : found.2.length < cs.length := by
  have hmem := List.mem_of_head? h
  have hpos := List.length_pos_iff.mpr (Pattern.ne_nil_of_mem_ways hp hmem)
  have hlength := congrArg List.length (Pattern.append_of_mem_ways hmem)
  rw [List.length_append] at hlength
  omega

/-! ## Runs of a class -/

section Runs

variable {β : Type} {test : Char → Bool} {cs : List Char}

/-- Where nothing goes on before another character of the class, only the longest run is of use. -/
theorem flatMap_reverse_cuts {f : List Char × List Char → List β}
    (h : ∀ before c rest, test c = true → f (before, c :: rest) = []) :
    (cuts test cs).reverse.flatMap f = f (cs.takeWhile test, cs.dropWhile test) := by
  induction cs generalizing f with
  | nil => simp [cuts]
  | cons c cs ih =>
    by_cases hc : test c = true
    · have hlonger := ih (f := fun cut => f (c :: cut.1, cut.2)) fun before x rest hx => h (c :: before) x rest hx
      rw [cuts, if_pos hc, List.reverse_cons, List.flatMap_append, List.flatMap_singleton, h [] c cs hc, List.append_nil,
        ← List.map_reverse, List.flatMap_map, hlonger, List.takeWhile_cons_of_pos hc, List.dropWhile_cons_of_pos hc]
    · rw [cuts, if_neg hc, List.takeWhile_cons_of_neg hc, List.dropWhile_cons_of_neg hc, List.reverse_singleton,
        List.flatMap_singleton]

/-- The longest run comes first when as many characters as can be are taken. -/
theorem head?_reverse_cuts : (cuts test cs).reverse.head? = some (cs.takeWhile test, cs.dropWhile test) := by
  induction cs with
  | nil => rfl
  | cons c cs ih =>
    by_cases hc : test c = true
    · rw [cuts, if_pos hc, List.reverse_cons, ← List.map_reverse, List.head?_append, List.head?_map, ih,
        List.takeWhile_cons_of_pos hc, List.dropWhile_cons_of_pos hc]
      rfl
    · rw [cuts, if_neg hc, List.takeWhile_cons_of_neg hc, List.dropWhile_cons_of_neg hc]
      rfl

theorem cutAt_cons_self (mark : Char) (cs : List Char) : cutAt mark (mark :: cs) = some ([], cs) := by
  simp [cutAt]

theorem cutAt_cons_of_ne {mark c : Char} (hc : c ≠ mark) (cs : List Char) :
    cutAt mark (c :: cs) = (cutAt mark cs).map fun cut => (c :: cut.1, cut.2) := by
  have hpass : (c != mark) = true := by simpa using hc
  simp only [cutAt, List.dropWhile_cons, List.takeWhile_cons, hpass, if_true]
  cases cs.dropWhile (· != mark) with
  | nil => rfl
  | cons x rest => rfl

/-- Where only a mark lets the matching go on, the first mark is where the shortest run stops. -/
theorem head?_flatMap_cuts {mark : Char} {f : List Char × List Char → List β} {g : List Char → List Char → β}
    (hnil : ∀ before, f (before, []) = []) (hmark : ∀ before rest, f (before, mark :: rest) = [g before rest])
    (hother : ∀ before c rest, c ≠ mark → f (before, c :: rest) = []) :
    ((cuts (fun _ => true) cs).flatMap f).head? = (cutAt mark cs).map fun cut => g cut.1 cut.2 := by
  induction cs generalizing f g with
  | nil => simp [cuts, hnil, cutAt]
  | cons c cs ih =>
    rw [cuts, if_pos rfl, List.flatMap_cons]
    by_cases hc : c = mark
    · subst hc
      rw [hmark, cutAt_cons_self]
      rfl
    · have hlonger := ih (f := fun cut => f (c :: cut.1, cut.2)) (g := fun before rest => g (c :: before) rest)
        (fun before => hnil (c :: before)) (fun before rest => hmark (c :: before) rest)
        fun before x rest hx => hother (c :: before) x rest hx
      rw [hother [] c cs hc, List.nil_append, List.flatMap_map, hlonger, cutAt_cons_of_ne hc, Option.map_map]
      rfl

end Runs

/-! ## The pattern of attributes -/

/-- A quotation mark of either kind. -/
def isQuote (c : Char) : Bool := c == '"' || c == '\''

/-- A value as short as can be, and the mark that opened it. -/
def closedPattern : Pattern := .followed (.kept .value (.fewest fun _ => true)) (.again .quote)

/-- An equals sign, a quotation mark, and a value closed by the same mark. -/
def quotedPattern : Pattern := .followed (.one (· == '=')) (.followed (.kept .quote (.one isQuote)) closedPattern)

/-- A name with a quoted value. -/
def attributePattern : Pattern := .followed (.kept .name (.followed (.one isNameStart) (.most isNameChar))) quotedPattern

/-- A run without blanks, as long as can be. -/
def barePattern : Pattern := .kept .bare (.followed (.one isInk) (.most isInk))

/-- What is searched for: attributes first, and where everything is taken any other run. -/
def Mode.pattern : Mode → Pattern
  | .everything => .orElse attributePattern barePattern
  | .attributesOnly => attributePattern

theorem Mode.consumes_pattern (mode : Mode) : mode.pattern.consumes = true := by
  cases mode <;> rfl

/-- What the groups keep of a piece. -/
def Piece.groups : Piece → Groups
  | .gap _ => .empty
  | .bare run => Groups.empty.set .bare run
  | .attr a => ((Groups.empty.set .name a.name).set .quote [a.quote.char]).set .value a.value

/-- A piece as a match. -/
def Piece.matched (piece : Piece) : Match := ⟨piece.text, piece.groups⟩

theorem isQuote_char (q : Quote) : isQuote q.char = true := by
  cases q <;> rfl

theorem exists_quote_of_isQuote {c : Char} (h : isQuote c = true) : ∃ q : Quote, c = q.char := by
  rcases Bool.or_eq_true_iff.mp h with h | h
  · exact ⟨.double, beq_iff_eq.mp h⟩
  · exact ⟨.single, beq_iff_eq.mp h⟩

/-- The shortest value that is closed ends at the first mark of the kind that opened it. -/
theorem head?_ways_closedPattern {groups : Groups} {q : Quote} (hq : groups .quote = some [q.char]) (cs : List Char) :
    (closedPattern.ways groups cs).head? =
      (cutAt q.char cs).map fun cut => (⟨cut.1 ++ [q.char], groups.set .value cut.1⟩, cut.2) := by
  have hset : ∀ value, groups.set .value value .quote = some [q.char] := fun value => hq
  rw [closedPattern, Pattern.ways, Pattern.ways, Pattern.ways, List.map_map, List.flatMap_map]
  refine head?_flatMap_cuts (g := fun value rest => ((⟨value ++ [q.char], groups.set .value value⟩ : Match), rest)) ?_ ?_ ?_
  · intro before
    simp [Pattern.ways, hset]
  · intro before rest
    simp [Pattern.ways, hset]
  · intro before c rest hc
    simp [Pattern.ways, hset, Ne.symm hc]

theorem head?_ways_quotedPattern (groups : Groups) (q : Quote) (cs : List Char) :
    (quotedPattern.ways groups ('=' :: q.char :: cs)).head? =
      (cutAt q.char cs).map fun cut =>
        (⟨'=' :: q.char :: (cut.1 ++ [q.char]), (groups.set .quote [q.char]).set .value cut.1⟩, cut.2) := by
  have hquote : groups.set .quote [q.char] .quote = some [q.char] := rfl
  have hclosed := head?_ways_closedPattern hquote cs
  simp only [quotedPattern, Pattern.ways, isQuote_char, beq_self_eq_true, if_true, List.map_cons, List.map_nil,
    List.flatMap_cons, List.flatMap_nil, List.append_nil, List.map_map, List.head?_map, hclosed, Option.map_map]
  rfl

/-- Without an equals sign and a mark after it there is no quoted value. -/
theorem ways_quotedPattern_eq_nil {groups : Groups} {cs : List Char} (h : ∀ (q : Quote) tail, cs ≠ '=' :: q.char :: tail) :
    quotedPattern.ways groups cs = [] := by
  cases cs with
  | nil => rfl
  | cons c cs =>
    by_cases hc : c = '='
    · cases cs with
      | nil => simp [quotedPattern, Pattern.ways]
      | cons mark cs =>
        have hmark : isQuote mark = false := by
          rw [Bool.eq_false_iff]
          intro hquote
          obtain ⟨q, rfl⟩ := exists_quote_of_isQuote hquote
          exact h q cs (by rw [hc])
        simp [quotedPattern, Pattern.ways, hmark]
    · simp [quotedPattern, Pattern.ways, hc]

/-- A name is matched as far as it goes, since neither an equals sign nor a mark goes on with it. -/
theorem ways_attributePattern {c : Char} (hc : isNameStart c = true) (cs : List Char) :
    attributePattern.ways .empty (c :: cs) =
      (quotedPattern.ways (Groups.empty.set .name (c :: cs.takeWhile isNameChar)) (cs.dropWhile isNameChar)).map
        fun way => (⟨c :: (cs.takeWhile isNameChar ++ way.1.text), way.1.groups⟩, way.2) := by
  have hstop : ∀ groups x rest, isNameChar x = true → quotedPattern.ways groups (x :: rest) = [] := by
    intro groups x rest hx
    apply ways_quotedPattern_eq_nil
    rintro q tail heq
    obtain ⟨rfl, -⟩ := List.cons.inj heq
    rw [isNameChar_equals] at hx
    cases hx
  simp only [attributePattern, Pattern.ways, hc, if_true, List.flatMap_cons, List.flatMap_nil, List.append_nil, List.map_map,
    List.flatMap_map]
  rw [flatMap_reverse_cuts]
  · rfl
  · intro before x rest hx
    simp [hstop _ x rest hx]

/-- The pattern of attributes matches the attribute that a text opens with, and in no way where it opens with none. -/
theorem match?_attributePattern (cs : List Char) :
    attributePattern.match? cs = (attribute? cs).map fun found => ((Piece.attr found.1).matched, found.2) := by
  cases cs with
  | nil => rfl
  | cons c cs =>
    by_cases hc : isNameStart c = true
    · have hname : IsName (c :: cs.takeWhile isNameChar) :=
        ⟨c, _, rfl, hc, fun x hx => List.all_eq_true.mp List.all_takeWhile x hx⟩
      have hcs : c :: cs = (c :: cs.takeWhile isNameChar) ++ cs.dropWhile isNameChar := by
        rw [List.cons_append, List.takeWhile_append_dropWhile]
      rw [Pattern.match?, ways_attributePattern hc, List.head?_map]
      by_cases hquoted : ∃ (q : Quote) (tail : List Char), cs.dropWhile isNameChar = '=' :: q.char :: tail
      · obtain ⟨q, tail, hdrop⟩ := hquoted
        rw [hcs, hdrop, attribute?_opening hname, head?_ways_quotedPattern, Option.map_map, Option.map_map]
        rfl
      · rw [ways_quotedPattern_eq_nil fun q tail heq => hquoted ⟨q, tail, heq⟩]
        have hnone : attribute? (c :: cs) = none := by
          rw [attribute?, if_pos hc]
          split
          · rename_i mark tail hdrop
            split
            · rename_i q _ _ hmark _
              exact absurd ⟨q, tail, by rw [hdrop, Quote.char_of_ofChar? hmark]⟩ hquoted
            · rfl
          · rfl
        rw [hnone]
        rfl
    · rw [attribute?, if_neg hc]
      simp [Pattern.match?, attributePattern, Pattern.ways, hc]

-- a value goes over marks of the other kind, and where the mark that opened it never comes up again nothing is matched
example : (attributePattern.match? "a='b\"c'd=\"e".toList).map (·.1.text) = some "a='b\"c'".toList := by decide

example : attributePattern.match? "d=\"e".toList = none := by decide

/-- Where a run is taken at all, it is taken up to the next blank. -/
theorem match?_barePattern {c : Char} (hc : isInk c = true) (cs : List Char) :
    barePattern.match? (c :: cs) = some ((Piece.bare (c :: cs.takeWhile isInk)).matched, cs.dropWhile isInk) := by
  simp only [barePattern, Pattern.match?, Pattern.ways, hc, if_true, List.flatMap_cons, List.flatMap_nil, List.append_nil,
    List.map_map, List.head?_map, head?_reverse_cuts]
  rfl

theorem match?_barePattern_of_blank {c : Char} (hc : Text.isBlank c = true) (cs : List Char) :
    barePattern.match? (c :: cs) = none := by
  simp [barePattern, Pattern.match?, Pattern.ways, isInk, hc]

theorem match?_everything (cs : List Char) :
    Mode.everything.pattern.match? cs = (attributePattern.match? cs).or (barePattern.match? cs) := by
  rw [Mode.pattern, Pattern.match?, Pattern.ways, List.head?_append]
  rfl

end ClassChain.Document

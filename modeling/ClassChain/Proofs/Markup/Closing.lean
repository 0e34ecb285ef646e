import ClassChain.Proofs.Markup.Sound

/-!
# Closing tags with nothing to close

A closing tag is a fault where nothing of its name is open (`take_of_not_open`), and what is told of such a fault quotes the tag
(`message_of_closing?`). So told as markup behind what is in a style, it is such a fault again (`exists_fault_behind_styled`), while
quiet text there is sound (`sound_behind_styled`). Text in a style is at fault when the first of its tags that is taken closes another
style (`exists_fault_of_strays`).
-/

namespace ClassChain

namespace Markup

section

variable {cs tail body name : List Char} {value? : Option (List Char)} {style : String} {r : Reading} {position : Nat}
  {fault : Fault}

/-! ## Text before and after others -/

/-- Text in which no tag begins, not even with backslashes before it. -/
def Bland (cs : List Char) : Prop := ∀ c ∈ cs, c ≠ '[' ∧ c ≠ '\\'

instance (cs : List Char) : Decidable (Bland cs) :=
  decidable_of_iff (cs.all (fun c => c != '[' && c != '\\') = true) (by simp [Bland])

/-- Text after bland text is read as it is alone. -/
theorem pieces_bland_append (h : Bland cs) (rest : List Char) : pieces (cs ++ rest) = cs.map .plain ++ pieces rest := by
  induction cs with
  | nil => rfl
  | cons c cs ih =>
    obtain ⟨⟨hbracket, hslash⟩, hcs⟩ := List.forall_mem_cons.mp h
    rw [List.cons_append, pieces_of_plain, ih hcs]
    · rfl
    · rw [List.dropWhile_cons_of_neg (by simpa [isSlash] using hslash)]
      exact tag?_of_ne hbracket _

theorem isQuiet_of_mem_map_plain {p : Piece} (h : p ∈ cs.map Piece.plain) : p.isQuiet = true := by
  obtain ⟨c, -, rfl⟩ := List.mem_map.mp h
  rfl

theorem Quiet.bland_append (hcs : Bland cs) (h : Quiet tail) : Quiet (cs ++ tail) := by
  intro p hp
  rw [pieces_bland_append hcs, List.mem_append] at hp
  exact hp.elim isQuiet_of_mem_map_plain (h p)

/-- No tag comes up between quiet text and one without brackets that begins with no letter. -/
theorem Quiet.append (h : Quiet cs) (htail : Calm tail) (hbracket : '[' ∉ tail) : Quiet (cs ++ tail) := by
  obtain ⟨ps, n, hps, happend⟩ := pieces_append htail cs
  have hend : Quiet (List.replicate n '\\' ++ tail) := quiet_of_not_mem fun hmem => by
    rcases List.mem_append.mp hmem with hmem | hmem
    · cases List.eq_of_mem_replicate hmem
    · exact hbracket hmem
  intro p hp
  rw [happend, List.mem_append] at hp
  exact hp.elim (fun hmem => h p (hps ▸ List.mem_append_left _ hmem)) (hend p)

theorem isBody_of_mem_pieces {slashes : Nat} (h : .tag slashes body ∈ pieces cs) : IsBody body := by
  fun_induction pieces cs with
  | case1 => cases h
  | case2 c rest body' after htag ih =>
    rcases List.mem_cons.mp h with heq | hmem
    · obtain ⟨-, rfl⟩ := Piece.tag.inj heq
      exact (tag?_eq_some_iff.mp htag).1
    · exact ih hmem
  | case3 c rest htag ih =>
    rcases List.mem_cons.mp h with heq | hmem
    · cases heq
    · exact ih hmem

/-! ## Faults of closing tags -/

/-- The closing tag that a fault is told of, if it is that there is nothing to close. -/
def Fault.closing? : Fault → Option (List Char)
  | .unmatched body _ => some body
  | .nothingOpen _ => some ['/']
  | .call _ | .amount _ => none

/-- What is told of a closing tag quotes it. -/
theorem message_of_closing? (h : fault.closing? = some body) :
    ∃ more, fault.message.toList = "closing tag '".toList ++ '[' :: (body ++ ']' :: more) := by
  cases fault with
  | unmatched told position =>
    obtain rfl : told = body := Option.some.inj h
    have hopening : "closing tag '[".toList = "closing tag '".toList ++ ['['] := by decide
    have hplace : "]' at position ".toList = ']' :: "' at position ".toList := by decide
    refine ⟨"' at position ".toList ++ ((toString position).toList ++ " doesn't match any open tag".toList), ?_⟩
    unfold Fault.message
    dsimp only
    rw [String.toList_append, String.toList_append, String.toList_append, String.toList_append, hopening, hplace,
      @String.toList_ofList told]
    simp only [List.append_assoc, List.cons_append, List.nil_append]
  | nothingOpen position =>
    obtain rfl : ['/'] = body := Option.some.inj h
    have hplace : "closing tag '[/]' at position ".toList =
        "closing tag '".toList ++ '[' :: (['/'] ++ ']' :: "' at position ".toList) := by decide
    refine ⟨"' at position ".toList ++ ((toString position).toList ++ " has nothing to close".toList), ?_⟩
    unfold Fault.message
    dsimp only
    rw [String.toList_append, String.toList_append, hplace]
    simp only [List.append_assoc, List.cons_append, List.nil_append]
  | call => cases h
  | amount => cases h

/-- A closing tag of a name that can be told, or of none. -/
structure IsClosing (body : List Char) : Prop where
  isBody : IsBody body
  name : ∃ name value?, partsOf body = ('/' :: name, value?) ∧
    ((Text.trimBlanks name).isEmpty = true ∨ ∃ n, tagName name = .ok n)

/-- The name of a closing tag must be open. -/
theorem take_of_not_open {n : String} (hparts : partsOf body = ('/' :: name, value?))
    (hword : (Text.trimBlanks name).isEmpty = false) (hname : tagName name = .ok n) (hopen : ∀ t ∈ r.opened, t.name ≠ n)
    (position : Nat) : r.take position body = .error (.unmatched body position) := by
  have hfind : r.opened.find? (·.name == n) = none := by
    rw [List.find?_eq_none]
    intro t ht
    simpa using hopen t ht
  rw [Reading.take, hparts]
  simp only [hword, hname, bind, Except.bind, hfind]
  rfl

/-- Where nothing is open no closing tag can be taken. -/
theorem IsClosing.take_of_none_open (h : IsClosing body) (hopen : r.opened = []) (position : Nat) :
    ∃ fault, r.take position body = .error fault ∧ fault.closing?.isSome = true := by
  obtain ⟨name, value?, hparts, hname⟩ := h.name
  by_cases hword : (Text.trimBlanks name).isEmpty = true
  · refine ⟨.nothingOpen position, ?_, rfl⟩
    rw [Reading.take, hparts]
    simp only [hword, hopen, if_true]
  · obtain ⟨n, hn⟩ := hname.resolve_left hword
    exact ⟨_, take_of_not_open hparts (Bool.eq_false_iff.mpr hword) hn (by simp [hopen]) position, rfl⟩

theorem closing?_of_close {t : Tag} {stop : Nat} (h : t.close stop = .error fault) : fault.closing? = none := by
  unfold Tag.close at h
  split at h
  · split at h
    · cases h
      rfl
    · cases h
  · cases h

theorem closing?_of_tagName (h : tagName name = .error fault) : fault.closing? = none := by
  unfold tagName Except.mapError at h
  split at h
  · cases h
    rfl
  · cases h

/-- What fails in two steps fails in one of them. -/
theorem error_of_bind {α β : Type} {first : Except Fault α} {next : α → Except Fault β} (h : first >>= next = .error fault) :
    first = .error fault ∨ ∃ a, next a = .error fault := by
  cases first with
  | ok a => exact .inr ⟨a, h⟩
  | error other =>
    cases h
    exact .inl rfl

/-- A closing tag that cannot be taken has a name that can be told, or none. -/
theorem isClosing_of_take {told : List Char} (hbody : IsBody body) (h : r.take position body = .error fault)
    (hclosing : fault.closing? = some told) : IsClosing told := by
  have hsome : fault.closing? ≠ none := by simp [hclosing]
  unfold Reading.take at h
  split at h
  · rename_i name value? hparts
    split at h
    · split at h
      · cases h
        obtain rfl := Option.some.inj hclosing
        exact ⟨⟨'/', [], rfl, by decide, by simp⟩, [], none, rfl, .inl rfl⟩
      · rcases error_of_bind h with hclose | ⟨spans, hrest⟩
        · exact absurd (closing?_of_close hclose) hsome
        · cases hrest
    · cases hname : tagName name with
      | error other =>
        rw [hname] at h
        cases h
        exact absurd (closing?_of_tagName hname) hsome
      | ok n =>
        simp only [hname, bind, Except.bind] at h
        split at h
        · rcases error_of_bind h with hclose | ⟨spans, hrest⟩
          · exact absurd (closing?_of_close hclose) hsome
          · cases hrest
        · cases h
          obtain rfl := Option.some.inj hclosing
          exact ⟨hbody, name, value?, hparts, .inr ⟨n, hname⟩⟩
  · rcases error_of_bind h with hname | ⟨n, hrest⟩
    · exact absurd (closing?_of_tagName hname) hsome
    · cases hrest

/-- Reading stops at a tag that cannot be taken. -/
theorem readFrom_of_fault {slashes : Nat} {rest : List Piece} (h : slashes % 2 ≠ 1)
    (htake : (r.show (halved slashes)).take (position + slashes) body = .error fault) :
    r.readFrom position (.tag slashes body :: rest) = .error fault := by
  rw [Reading.readFrom]
  simp only [h, if_false, htake]

/-- What is told of a closing tag while text is read is told of one of its tags, or of one without a name. -/
theorem isClosing_of_readFrom {ps : List Piece} {told : List Char} (hbody : ∀ slashes body, .tag slashes body ∈ ps → IsBody body)
    (h : r.readFrom position ps = .error fault) (hclosing : fault.closing? = some told) : IsClosing told := by
  induction ps generalizing r position with
  | nil => cases h
  | cons p ps ih =>
    have hrest : ∀ slashes body, .tag slashes body ∈ ps → IsBody body := fun slashes body hmem =>
      hbody slashes body (List.mem_cons_of_mem p hmem)
    cases p with
    | plain c =>
      rw [Reading.readFrom] at h
      exact ih hrest h
    | tag slashes body =>
      by_cases hodd : slashes % 2 = 1
      · rw [readFrom_of_odd hodd] at h
        exact ih hrest h
      · cases htake : (r.show (halved slashes)).take (position + slashes) body with
        | ok r' =>
          rw [readFrom_of_take hodd htake] at h
          exact ih hrest h
        | error other =>
          rw [readFrom_of_fault hodd htake] at h
          cases h
          exact isClosing_of_take (hbody slashes body List.mem_cons_self) htake hclosing

/-- Text behind what is in a style, all of it without brackets, is read with nothing open. -/
theorem readFrom_behind_styled {inner : String} (hstyle : IsStyle style) (hinner : Bland inner.toList) (rest : List Char) :
    ∃ (r : Reading) (position : Nat), r.opened = [] ∧ (∀ s ∈ r.closed, s.style = style.toList) ∧
      ({} : Reading).readFrom 0 (pieces ((styled style inner).toList ++ rest)) = r.readFrom position (pieces rest) := by
  have htext : (styled style inner).toList ++ rest =
      '[' :: (style.toList ++ ']' :: (inner.toList ++ '[' :: ('/' :: style.toList ++ ']' :: rest))) := by
    simp [toList_styled]
  have hpieces : pieces (inner.toList ++ '[' :: ('/' :: style.toList ++ ']' :: rest)) =
      inner.toList.map .plain ++ .tag 0 ('/' :: style.toList) :: pieces rest := by
    rw [pieces_bland_append hinner]
    exact congrArg _ (pieces_of_tag hstyle.body_closing 0 rest)
  have hquiet : ∀ p ∈ inner.toList.map Piece.plain, p.isQuiet = true := fun p => isQuiet_of_mem_map_plain
  obtain ⟨r, position, hopened, hclosed, hread⟩ := readFrom_quiet hquiet (.tag 0 ('/' :: style.toList) :: pieces rest)
    { opened := [IsStyle.opening style 0] } (style.toList.length + 2)
  have hshown : (r.show (halved 0)).opened = [IsStyle.opening style 0] := hopened
  refine ⟨{ r.show (halved 0) with
    opened := []
    closed := ⟨0, (r.show (halved 0)).shown.length, style.toList⟩ :: (r.show (halved 0)).closed },
    position + 0 + ('/' :: style.toList).length + 2, rfl, ?_, ?_⟩
  · intro s hs
    rcases List.mem_cons.mp hs with rfl | hs
    · rfl
    · rw [show (r.show (halved 0)).closed = [] from hclosed] at hs
      cases hs
  · rw [htext, readFrom_styled hstyle, hpieces, hread]
    exact readFrom_of_take (by decide) (hstyle.take_closing hshown _)

/-- Quiet text behind what is in a style is sound. -/
theorem sound_behind_styled {inner after : String} (hstyle : IsStyle style) (hinner : Bland inner.toList) (h : Quiet after.toList) :
    Sound (styled style inner ++ after) := by
  obtain ⟨r, position, hopened, hclosed, hread⟩ := readFrom_behind_styled hstyle hinner after.toList
  obtain ⟨r', position', hopened', hclosed', hend⟩ := readFrom_quiet h [] r position
  rw [List.append_nil, Reading.readFrom] at hend
  refine ⟨r'.finish, ?_, fun s hs => ?_⟩
  · rw [read, String.toList_append, hread, hend]
    rfl
  · rcases mem_spans_finish hs with ⟨t, ht, -⟩ | hs
    · rw [hopened', hopened] at ht
      cases ht
    · rw [hclosed'] at hs
      have hs : s.style = style.toList := hclosed s hs
      exact (Span.fault?_congr (show s.style = (⟨0, 0, style.toList⟩ : Span).style from hs)).trans (hstyle.drawn 0 0)

/-- Where nothing is open, reading stops at a closing tag behind bland text. -/
theorem exists_fault_of_none_open {before : List Char} (hopened : r.opened = []) (hbefore : Bland before) (h : IsClosing body)
    (after : List Char) (position : Nat) :
    ∃ fault, r.readFrom position (pieces (before ++ '[' :: (body ++ ']' :: after))) = .error fault ∧
      fault.closing?.isSome = true := by
  have hquiet : ∀ p ∈ before.map Piece.plain, p.isQuiet = true := fun p => isQuiet_of_mem_map_plain
  obtain ⟨r', position', hopened', -, hstop⟩ := readFrom_quiet hquiet (.tag 0 body :: pieces after) r position
  have hnone : (r'.show (halved 0)).opened = [] := hopened'.trans hopened
  obtain ⟨fault, htake, hclosing⟩ := h.take_of_none_open hnone (position' + 0)
  have hpieces : pieces (before ++ '[' :: (body ++ ']' :: after)) = before.map .plain ++ .tag 0 body :: pieces after := by
    rw [pieces_bland_append hbefore]
    exact congrArg _ (pieces_of_tag h.isBody 0 after)
  exact ⟨fault, by rw [hpieces, hstop, readFrom_of_fault (by decide) htake], hclosing⟩

/-- A closing tag behind bland text cannot be taken. -/
theorem exists_fault_of_isClosing {before : List Char} (hbefore : Bland before) (h : IsClosing body) (after : List Char) :
    ∃ fault, read (before ++ '[' :: (body ++ ']' :: after)) = .error fault ∧ fault.closing?.isSome = true := by
  obtain ⟨fault, hread, hclosing⟩ := exists_fault_of_none_open (r := {}) rfl hbefore h after 0
  exact ⟨fault, by rw [read, hread]; rfl, hclosing⟩

/-- Nor behind what is in a style and bland text. -/
theorem exists_fault_behind_styled {inner : String} {before : List Char} (hstyle : IsStyle style)
    (hinner : Bland inner.toList) (hbefore : Bland before) (h : IsClosing body) (after : List Char) :
    ∃ fault, read ((styled style inner).toList ++ (before ++ '[' :: (body ++ ']' :: after))) = .error fault ∧
      fault.closing?.isSome = true := by
  obtain ⟨r, position, hopened, -, hread⟩ := readFrom_behind_styled hstyle hinner (before ++ '[' :: (body ++ ']' :: after))
  obtain ⟨fault, hstop, hclosing⟩ := exists_fault_of_none_open hopened hbefore h after position
  exact ⟨fault, by rw [read, hread, hstop]; rfl, hclosing⟩

/-! ## Tags that stray -/

/-- A tag that closes a style of another name. -/
def ClosesOther (style : String) (body : List Char) : Prop :=
  ∃ name value? n, partsOf body = ('/' :: name, value?) ∧ (Text.trimBlanks name).isEmpty = false ∧ tagName name = .ok n ∧ n ≠ style

/-- The first tag of a text that is taken closes a style other than the one in which the text stands. -/
def Strays (style : String) (cs : List Char) : Prop :=
  ∃ ps slashes body rest, pieces cs = ps ++ .tag slashes body :: rest ∧ (∀ p ∈ ps, p.isQuiet = true) ∧ slashes % 2 ≠ 1 ∧
    ClosesOther style body

theorem Strays.bland_append (hcs : Bland cs) (h : Strays style tail) : Strays style (cs ++ tail) := by
  obtain ⟨ps, slashes, body, rest, hpieces, hps, htag⟩ := h
  refine ⟨cs.map .plain ++ ps, slashes, body, rest, ?_, fun p hp => ?_, htag⟩
  · rw [pieces_bland_append hcs, hpieces, List.append_assoc]
  · exact (List.mem_append.mp hp).elim isQuiet_of_mem_map_plain (hps p)

theorem Strays.append (h : Strays style cs) (htail : Calm tail) : Strays style (cs ++ tail) := by
  obtain ⟨ps, slashes, body, rest, hpieces, hps, htag⟩ := h
  obtain ⟨front, n, hfront, happend⟩ := pieces_append htail cs
  have hplain : Piece.tag slashes body ∉ List.replicate n (Piece.plain '\\') := fun hmem => by
    cases List.eq_of_mem_replicate hmem
  -- what may go to the tail are backslashes, and the tag is none
  have hsplit : ∃ more, front = ps ++ .tag slashes body :: more := by
    rw [hpieces, eq_comm, List.append_eq_append_iff] at hfront
    obtain ⟨more, -, hrest⟩ | ⟨more, hmore, hrest⟩ := hfront
    · exact absurd (by simp [hrest]) hplain
    · cases more with
      | nil => exact absurd (by simp [← show _ = List.replicate n _ from hrest]) hplain
      | cons q more =>
        obtain ⟨rfl, -⟩ := List.cons.inj hrest
        exact ⟨more, hmore⟩
  obtain ⟨more, rfl⟩ := hsplit
  exact ⟨ps, slashes, body, more ++ pieces (List.replicate n '\\' ++ tail), by rw [happend]; simp, hps, htag⟩

/-- A small word that is neither an attribute nor a colour nor says anything of others is its own name. -/
theorem tagName_of_word {word : String} (hwords : wordsOf word.toList = [word]) (hlower : Text.lower word = word)
    (hword : word ∉ ["on", "not", "link", "none"]) (hattribute : attributeIndex? word = none)
    (hcolour : isColour word = .ok false) (htrim : Text.trimBlanks word.toList = word.toList) :
    tagName word.toList = .ok word := by
  simp only [List.mem_cons, List.not_mem_nil, or_false, not_or] at hword
  obtain ⟨hon, hnot, hlink, hnone⟩ := hword
  have hread : ({} : Style).read? [word] = .ok none := by
    rw [Style.read?_word [] hlower (by simp [hon, hnot, hlink]), hattribute]
    dsimp only
    rw [hcolour]
    rfl
  have hnormal : normalName word.toList = .ok word := by
    unfold normalName
    rw [hwords]
    split
    · contradiction
    · rename_i heq
      exact absurd (List.cons.inj heq).1 hnone
    · rw [hread, htrim, String.ofList_toList]
      exact congrArg Except.ok hlower
  rw [tagName, hnormal]
  rfl

/-- A text that strays is at fault in its style. -/
theorem exists_fault_of_strays {markup : String} (hstyle : IsStyle style) (h : Strays style markup.toList) :
    ∃ fault, read (styled style markup).toList = .error fault := by
  obtain ⟨ps, slashes, body, rest, hpieces, hps, heven, name, value?, n, hparts, hword, hname, hne⟩ :=
    h.append (calm_bracket ('/' :: style.toList ++ [']']))
  obtain ⟨r, position, hopened, -, hread⟩ := readFrom_quiet hps (.tag slashes body :: rest)
    { opened := [IsStyle.opening style 0] } (style.toList.length + 2)
  have hopen : ∀ t ∈ (r.show (halved slashes)).opened, t.name ≠ n := by
    intro t ht
    rw [show (r.show (halved slashes)).opened = [IsStyle.opening style 0] from hopened, List.mem_singleton] at ht
    rw [ht]
    exact hne.symm
  have htake := take_of_not_open hparts hword hname hopen (position + slashes)
  refine ⟨.unmatched body (position + slashes), ?_⟩
  rw [readFrom_of_fault heven htake] at hread
  rw [read, toList_styled, readFrom_styled hstyle, hpieces]
  exact congrArg (· >>= _) hread

end

namespace Sample

/-- The name of a tag that is no style. -/
theorem tagName_x : tagName ['x'] = .ok "x" := by
  have hcolour : isColour "x" = .ok false := by
    have hnamed : colourNames.contains "x" = false := by decide
    have hmixed : isMixed "x".toList = .ok false := rfl
    unfold isColour
    rw [hnamed]
    exact hmixed
  exact tagName_of_word (by cbv) (Text.lower_eq_self (by decide)) (by decide) (by decide) hcolour (by decide)

theorem isBody_closing : IsBody ['/', 'x'] := ⟨'/', ['x'], rfl, by decide, by simp [isBracket]⟩

theorem isClosing_closing : IsClosing ['/', 'x'] := ⟨isBody_closing, ['x'], none, rfl, .inr ⟨"x", tagName_x⟩⟩

end Sample

end Markup

/-! ## In what is shown -/

/-- What is shown with markup that cannot be read, and first with that, has its fault. -/
theorem Display.fault?_of_read {d : Display} {markup : String} {rest : List String} {fault : Markup.Fault}
    (hmarkups : d.markups = markup :: rest) (h : Markup.read markup.toList = .error fault) : d.fault? = some fault := by
  have hmarkup : markupFault? markup = some fault := by rw [markupFault?, h]
  rw [Display.fault?, hmarkups, List.findSome?_cons, hmarkup]
  rfl

/-- What is wrong with styles is an amount. -/
theorem Markup.Shown.exists_amount_of_fault? {t : Markup.Shown} {width : Nat} {fault : Markup.Fault}
    (h : t.fault? width = some fault) : ∃ told, fault = .amount told := by
  unfold Markup.Shown.fault? at h
  split at h
  · cases h
  · obtain ⟨line, -, hline⟩ := List.exists_of_findSome?_eq_some h
    obtain ⟨s, -, hs⟩ := List.exists_of_findSome?_eq_some hline
    unfold Markup.Span.fault? at hs
    split at hs
    · cases hs
    · rename_i told _
      exact ⟨told, (Option.some.inj hs).symm⟩

/-- What is wrong with something that is shown is wrong with its markup, or an amount in its styles. -/
theorem Display.read_or_amount_of_fault? {d : Display} {fault : Markup.Fault} (h : d.fault? = some fault) :
    (∃ markup : String, Markup.read markup.toList = .error fault) ∨ ∃ told, fault = .amount told := by
  cases hmarkups : d.markups.findSome? markupFault? with
  | some other =>
    rw [Display.fault?, hmarkups] at h
    obtain rfl : other = fault := Option.some.inj h
    obtain ⟨markup, -, hmarkup⟩ := List.exists_of_findSome?_eq_some hmarkups
    unfold markupFault? at hmarkup
    split at hmarkup
    · cases hmarkup
    · rename_i herror
      exact .inl ⟨markup, herror.trans (congrArg Except.error (Option.some.inj hmarkup))⟩
  | none =>
    rw [Display.fault?, hmarkups] at h
    obtain ⟨markup, -, hstyle⟩ := List.exists_of_findSome?_eq_some h
    unfold Display.styleFault? at hstyle
    split at hstyle
    · exact .inr (Markup.Shown.exists_amount_of_fault? hstyle)
    · cases hstyle

/-- What is told of a closing tag in something that is shown is told of one that can be told. -/
theorem Display.isClosing_of_fault? {d : Display} {fault : Markup.Fault} {told : List Char} (h : d.fault? = some fault)
    (hclosing : fault.closing? = some told) : Markup.IsClosing told := by
  obtain ⟨markup, hread⟩ | ⟨amount, rfl⟩ := Display.read_or_amount_of_fault? h
  · rcases Markup.error_of_bind hread with hfrom | ⟨r, hend⟩
    · exact Markup.isClosing_of_readFrom (fun _ _ => Markup.isBody_of_mem_pieces) hfrom hclosing
    · cases hend
  · cases hclosing

end ClassChain

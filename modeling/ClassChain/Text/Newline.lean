/-!
# Line ends

Files are read with every kind of line end taken for a newline, and a help text is measured line by line.

`return_not_mem_unify` says that no carriage return is left, and `unify_of_not_mem` that text without one stays as it is. Line ends
are unified piece by piece (`unify_append_cons`).
-/

namespace ClassChain.Text

/-- Text in which each carriage return, with a newline after it or not, has become a newline. -/
def unify : List Char → List Char
  | [] => []
  | '\r' :: '\n' :: rest => '\n' :: unify rest
  | c :: rest => (if c = '\r' then '\n' else c) :: unify rest

theorem unify_of_not_mem {cs : List Char} (h : '\r' ∉ cs) : unify cs = cs := by
  fun_induction unify cs with
  | case1 => rfl
  | case2 rest ih => simp at h
  | case3 c rest _ ih =>
    simp only [List.mem_cons, not_or] at h
    rw [ih h.2, if_neg (Ne.symm h.1)]

theorem return_not_mem_unify (cs : List Char) : '\r' ∉ unify cs := by
  fun_induction unify cs with
  | case1 => simp
  | case2 rest ih => simp [ih]
  | case3 c rest _ ih =>
    simp only [List.mem_cons, not_or]
    exact ⟨by split <;> simp_all [eq_comm], ih⟩

/-- A character and what follows it: a carriage return before a newline vanishes, and any other becomes a newline. -/
theorem unify_cons (c : Char) (cs : List Char) :
    unify (c :: cs) =
      if c = '\r' ∧ cs.head? = some '\n' then unify cs else (if c = '\r' then '\n' else c) :: unify cs := by
  cases cs with
  | nil => simp [unify]
  | cons d cs =>
    by_cases hc : c = '\r'
    · by_cases hd : d = '\n'
      · simp [hc, hd, unify]
      · rw [unify]
        · simp [hc, hd]
        · simp [hd]
    · rw [unify]
      · simp [hc]
      · simp [hc]

theorem unify_cons_of_ne {c : Char} (hc : c ≠ '\r') (cs : List Char) : unify (c :: cs) = c :: unify cs := by
  rw [unify_cons, if_neg (by simp [hc]), if_neg hc]

theorem unify_append_of_not_mem {w : List Char} (hw : '\r' ∉ w) (cs : List Char) : unify (w ++ cs) = w ++ unify cs := by
  induction w with
  | nil => rfl
  | cons c w ih =>
    simp only [List.mem_cons, not_or] at hw
    rw [List.cons_append, unify_cons_of_ne (Ne.symm hw.1), ih hw.2, List.cons_append]

/-- Line ends are unified apart on both sides of a character that belongs to none. -/
theorem unify_append_cons {c : Char} (hc : c ≠ '\n') (cs ds : List Char) :
    unify (cs ++ c :: ds) = unify cs ++ unify (c :: ds) := by
  induction cs with
  | nil => rfl
  | cons b cs ih =>
    have hhead : (cs ++ c :: ds).head? = some '\n' ↔ cs.head? = some '\n' := by
      cases cs <;> simp [hc]
    rw [List.cons_append, unify_cons, unify_cons, ih]
    simp only [hhead]
    split <;> rfl

theorem mem_unify {c : Char} (hr : c ≠ '\r') (hn : c ≠ '\n') (cs : List Char) : c ∈ unify cs ↔ c ∈ cs := by
  induction cs with
  | nil => rfl
  | cons d cs ih =>
    rw [unify_cons, List.mem_cons, ← ih]
    split
    · rename_i hcond
      simp [hcond.1, hr]
    · by_cases hd : d = '\r' <;> simp [hd, hr, hn]

/-- What has no line end at the beginning of a text with unified line ends is the beginning of the text. -/
theorem exists_of_unify_eq_append {cs w tail : List Char} (hw : '\n' ∉ w) (h : unify cs = w ++ tail) :
    ∃ rest, cs = w ++ rest ∧ unify rest = tail := by
  induction w generalizing cs with
  | nil => exact ⟨cs, rfl, h⟩
  | cons c w ih =>
    simp only [List.mem_cons, not_or] at hw
    cases cs with
    | nil => simp [unify] at h
    | cons d cs =>
      by_cases hd : d = '\r'
      · -- a carriage return gives a newline, or goes before one
        have hhead : (unify (d :: cs)).head? = some '\n' := by
          rw [unify_cons]
          split
          · rename_i hcond
            obtain ⟨ds, rfl⟩ := List.head?_eq_some_iff.mp hcond.2
            rw [unify_cons_of_ne (by decide)]
            rfl
          · simp
        rw [h] at hhead
        exact absurd (by simpa using hhead.symm) hw.1
      · rw [unify_cons_of_ne hd, List.cons_append] at h
        obtain ⟨rfl, hunify⟩ := List.cons_eq_cons.mp h
        obtain ⟨rest, rfl, hrest⟩ := ih hw.2 hunify
        exact ⟨rest, rfl, hrest⟩

/-- A character that ends a line of a text laid out for reading. -/
def isLineEnd (c : Char) : Bool :=
  let n := c.toNat
  (0xA ≤ n && n ≤ 0xD) || (0x1C ≤ n && n ≤ 0x1E) || n == 0x85 || n == 0x2028 || n == 0x2029

/-- The lengths of the lines of a text whose first line goes on from a length; a carriage return and a newline end one line
together, and nothing follows the last line end. -/
def lineLengthsFrom (length : Nat) : List Char → List Nat
  | [] => if length = 0 then [] else [length]
  | '\r' :: '\n' :: rest => length :: lineLengthsFrom 0 rest
  | c :: rest => if isLineEnd c then length :: lineLengthsFrom 0 rest else lineLengthsFrom (length + 1) rest

/-- The length of the longest line of a text. -/
def longestLine (cs : List Char) : Nat := (lineLengthsFrom 0 cs).foldl max 0

end ClassChain.Text

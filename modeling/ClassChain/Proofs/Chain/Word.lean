import Mathlib.Algebra.GroupWithZero.Nat
import ClassChain.Chain.Expansion

/-!
# Words of a value

A value is a row of words with blanks before, between and after them. `words` names the words, `Solid` says what a text must be
to stand as one word, and `EndsWord` what must follow it there. A statement about every value is proved by `words_induction`: a
value is empty, or it opens with a blank, or it opens with a whole word.

`mapWords` is told by its words: `words_mapWords` says which words a value has after each of them was replaced by several, and
`length_mapWords` how much longer it is.
-/

namespace ClassChain.Chain

/-- The words of a value, its longest runs without blanks, in order. -/
def words (cs : List Char) : List (List Char) := (Text.splitWhere Text.isBlank cs).filter (· ≠ [])

/-- A text that can stand as one word: it is not empty and holds no blank. -/
structure Solid (w : List Char) : Prop where
  ne_nil : w ≠ []
  not_blank : ∀ c ∈ w, Text.isBlank c = false

/-- Two words with nothing between them are one. -/
theorem Solid.append {v w : List Char} (hv : Solid v) (hw : Solid w) : Solid (v ++ w) where
  ne_nil := by simp [hv.ne_nil]
  not_blank := by
    intro c hc
    rcases List.mem_append.mp hc with hc | hc
    · exact hv.not_blank c hc
    · exact hw.not_blank c hc

/-- A text before which a word ends: it is empty or opens with a blank. -/
def EndsWord (cs : List Char) : Prop := ∀ c ∈ cs.head?, Text.isBlank c = true

theorem endsWord_nil : EndsWord [] := by
  intro c hc
  simp at hc

theorem endsWord_cons {c : Char} {cs : List Char} : EndsWord (c :: cs) ↔ Text.isBlank c = true := by
  simp [EndsWord]

/-- What is left after the longest run without blanks ends a word. -/
theorem endsWord_dropWhile (cs : List Char) : EndsWord (cs.dropWhile (!Text.isBlank ·)) := by
  intro c hc
  have h := List.head?_dropWhile_not (fun x => !Text.isBlank x) cs
  rw [Option.mem_def.mp hc] at h
  simpa using h

theorem EndsWord.append {cs ds : List Char} (hcs : EndsWord cs) (hds : EndsWord ds) : EndsWord (cs ++ ds) := by
  cases cs with
  | nil => exact hds
  | cons c cs => exact endsWord_cons.mpr (endsWord_cons.mp hcs)

theorem takeWhile_append_of_endsWord {w cs : List Char} (hw : ∀ c ∈ w, Text.isBlank c = false) (hcs : EndsWord cs) :
    (w ++ cs).takeWhile (!Text.isBlank ·) = w := by
  have hin : ∀ c ∈ w, (!Text.isBlank c) = true := fun c hc => by simp [hw c hc]
  rw [List.takeWhile_append_of_pos hin]
  cases cs with
  | nil => simp
  | cons b cs => simp [endsWord_cons.mp hcs]

theorem dropWhile_append_of_endsWord {w cs : List Char} (hw : ∀ c ∈ w, Text.isBlank c = false) (hcs : EndsWord cs) :
    (w ++ cs).dropWhile (!Text.isBlank ·) = cs := by
  have hin : ∀ c ∈ w, (!Text.isBlank c) = true := fun c hc => by simp [hw c hc]
  rw [List.dropWhile_append_of_pos hin]
  cases cs with
  | nil => rfl
  | cons b cs => simp [endsWord_cons.mp hcs]

/-! ## Values by their words -/

/-- A value is empty, or opens with a blank, or opens with a whole word. -/
theorem words_induction {P : List Char → Prop} (nil : P [])
    (blank : ∀ c cs, Text.isBlank c = true → P cs → P (c :: cs))
    (word : ∀ w cs, Solid w → EndsWord cs → P cs → P (w ++ cs)) (cs : List Char) : P cs := by
  induction hn : cs.length using Nat.strongRecOn generalizing cs with
  | ind n ih =>
    cases cs with
    | nil => exact nil
    | cons c rest =>
      by_cases hc : Text.isBlank c = true
      · exact blank c rest hc (ih rest.length (by simp [← hn]) rest rfl)
      · have hsplit : c :: rest = (c :: rest.takeWhile (!Text.isBlank ·)) ++ rest.dropWhile (!Text.isBlank ·) := by
          rw [List.cons_append, List.takeWhile_append_dropWhile]
        have hle := (List.dropWhile_suffix (p := fun x => !Text.isBlank x) (l := rest)).length_le
        have hlt : (rest.dropWhile (!Text.isBlank ·)).length < n := by
          rw [← hn, List.length_cons]
          omega
        rw [hsplit]
        refine word _ _ ⟨by simp, ?_⟩ (endsWord_dropWhile rest) (ih _ hlt _ rfl)
        intro x hx
        rcases List.mem_cons.mp hx with rfl | hx
        · simpa using hc
        · simpa using List.all_eq_true.mp List.all_takeWhile x hx

@[simp] theorem words_nil : words [] = [] := rfl

/-- A blank stands between words: those before it and those after it are the words of the value. -/
theorem words_append_blank {b : Char} (hb : Text.isBlank b = true) (cs ds : List Char) :
    words (cs ++ b :: ds) = words cs ++ words ds := by
  rw [words, Text.splitWhere_append_cons hb, List.filter_append]
  rfl

theorem words_of_blank {c : Char} {cs : List Char} (hc : Text.isBlank c = true) : words (c :: cs) = words cs :=
  words_append_blank hc [] cs

theorem words_of_solid {w : List Char} (hw : Solid w) : words w = [w] := by
  simp [words, Text.splitWhere_of_none hw.not_blank, hw.ne_nil]

theorem words_append_of_solid {w cs : List Char} (hw : Solid w) (hcs : EndsWord cs) : words (w ++ cs) = w :: words cs := by
  cases cs with
  | nil => rw [List.append_nil, words_of_solid hw, words_nil]
  | cons b cs =>
    have hb := endsWord_cons.mp hcs
    rw [words_append_blank hb, words_of_solid hw, words_of_blank hb, List.singleton_append]

/-- The first of some words with a space between them, and the others. -/
theorem intercalate_cons_append {ws : List (List Char)} (hne : ws ≠ []) (w cs : List Char) :
    [' '].intercalate (w :: ws) ++ cs = w ++ ' ' :: ([' '].intercalate ws ++ cs) := by
  rw [List.intercalate_cons_of_ne_nil hne, List.append_assoc, List.append_assoc, List.singleton_append]

/-- Words with a space between them are these words. -/
theorem words_intercalate_append {ws : List (List Char)} {cs : List Char} (hne : ws ≠ []) (hws : ∀ w ∈ ws, Solid w)
    (hcs : EndsWord cs) : words ([' '].intercalate ws ++ cs) = ws ++ words cs := by
  induction ws with
  | nil => exact absurd rfl hne
  | cons w ws ih =>
    have hw := hws w List.mem_cons_self
    cases ws with
    | nil => simpa [List.intercalate] using words_append_of_solid hw hcs
    | cons v vs =>
      have hrest := ih (by simp) fun x hx => hws x (List.mem_cons_of_mem _ hx)
      have hspace : EndsWord (' ' :: ([' '].intercalate (v :: vs) ++ cs)) := endsWord_cons.mpr Text.isBlank_space
      rw [intercalate_cons_append (by simp), words_append_of_solid hw hspace, words_of_blank Text.isBlank_space, hrest]
      rfl

/-! ## Replacing every word -/

section Replacing

variable {f : List Char → List Char}

@[simp] theorem mapWords_nil : mapWords f [] = [] := by rw [mapWords.eq_def]

theorem mapWords_of_blank {c : Char} {cs : List Char} (hc : Text.isBlank c = true) :
    mapWords f (c :: cs) = c :: mapWords f cs := by
  rw [mapWords.eq_def]
  exact if_pos hc

theorem mapWords_of_not_blank {c : Char} {cs : List Char} (hc : ¬ Text.isBlank c = true) :
    mapWords f (c :: cs) =
      f (c :: cs.takeWhile (!Text.isBlank ·)) ++ mapWords f (cs.dropWhile (!Text.isBlank ·)) := by
  rw [mapWords.eq_def]
  exact if_neg hc

theorem mapWords_append_of_solid {w cs : List Char} (hw : Solid w) (hcs : EndsWord cs) :
    mapWords f (w ++ cs) = f w ++ mapWords f cs := by
  cases w with
  | nil => exact absurd rfl hw.ne_nil
  | cons c w =>
    have hc : ¬ Text.isBlank c = true := by simp [hw.not_blank c (by simp)]
    have hin : ∀ x ∈ w, Text.isBlank x = false := fun x hx => hw.not_blank x (List.mem_cons_of_mem c hx)
    rw [List.cons_append, mapWords_of_not_blank hc, takeWhile_append_of_endsWord hin hcs,
      dropWhile_append_of_endsWord hin hcs]

theorem endsWord_mapWords {cs : List Char} (h : EndsWord cs) : EndsWord (mapWords f cs) := by
  cases cs with
  | nil => rw [mapWords_nil]; exact endsWord_nil
  | cons c cs =>
    have hc := endsWord_cons.mp h
    rw [mapWords_of_blank hc]
    exact endsWord_cons.mpr hc

/-- A value whose words all stay does not change. -/
theorem mapWords_of_fixed {cs : List Char} (h : ∀ w ∈ words cs, f w = w) : mapWords f cs = cs := by
  induction cs using words_induction with
  | nil => exact mapWords_nil
  | blank c cs hc ih =>
    rw [words_of_blank hc] at h
    rw [mapWords_of_blank hc, ih h]
  | word w cs hw hcs ih =>
    rw [words_append_of_solid hw hcs] at h
    rw [mapWords_append_of_solid hw hcs, h w (by simp), ih fun x hx => h x (by simp [hx])]

/-- When every word is replaced by words with a space between them, these are the words of the value. -/
theorem words_mapWords {g : List Char → List (List Char)} (hf : ∀ w, f w = [' '].intercalate (g w))
    (hne : ∀ w, g w ≠ []) (hg : ∀ w, Solid w → ∀ x ∈ g w, Solid x) (cs : List Char) :
    words (mapWords f cs) = (words cs).flatMap g := by
  induction cs using words_induction with
  | nil => simp
  | blank c cs hc ih => rw [mapWords_of_blank hc, words_of_blank hc, words_of_blank hc, ih]
  | word w cs hw hcs ih =>
    rw [mapWords_append_of_solid hw hcs, words_append_of_solid hw hcs, hf,
      words_intercalate_append (hne w) (hg w hw) (endsWord_mapWords hcs), ih, List.flatMap_cons]

/-- When every word grows by an amount of its own, the value grows by their sum. -/
theorem length_mapWords {growth : List Char → Nat} (hf : ∀ w, (f w).length = w.length + growth w) (cs : List Char) :
    (mapWords f cs).length = cs.length + ((words cs).map growth).sum := by
  induction cs using words_induction with
  | nil => simp
  | blank c cs hc ih =>
    rw [mapWords_of_blank hc, words_of_blank hc, List.length_cons, List.length_cons, ih]
    omega
  | word w cs hw hcs ih =>
    rw [mapWords_append_of_solid hw hcs, words_append_of_solid hw hcs, List.length_append, List.length_append, hf, ih,
      List.map_cons, List.sum_cons]
    omega

end Replacing

end ClassChain.Chain

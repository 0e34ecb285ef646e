import ClassChain.Proofs.Document.Spread
import Mathlib.Data.Multiset.DershowitzManna
import Mathlib.Data.Set.Finite.Basic

/-!
# Repeated expansion settles

A document can be written out again and again, each time with attributes only or with bare runs too. A pass that changes it makes it
longer, can multiply its delimiters (one in a bracket group of a lead is copied with the lead), and can bring in attributes or take
some away; the measure that goes down all the same is the multiset of the delimiters of its words (`weights`). A word that changes
is replaced by words with fewer delimiters each, however many they are, so the multiset is smaller in the order of Dershowitz and
Manna, and there is no endless row of changes: `wellFounded_changes`.
-/

namespace ClassChain.Document

/-- One document is what another is written out to, in some mode, and not the same. -/
def Changes (ds cs : List Char) : Prop := ∃ mode, ds = expand mode cs ∧ ds ≠ cs

/-- A document after some passes, each over the output of the one before and in a mode of its own. -/
def passes (modes : Nat → Mode) (cs : List Char) : Nat → List Char
  | 0 => cs
  | k + 1 => expand (modes k) (passes modes cs k)

/-- How many delimiters each word of a text has. -/
def weights (cs : List Char) : Multiset Nat := ((Chain.words cs).map (List.count Chain.delimiter ·) : List Nat)

theorem weights_of_blank {b : Char} {cs : List Char} (hb : Text.isBlank b = true) : weights (b :: cs) = weights cs := by
  rw [weights, weights, Chain.words_of_blank hb]

theorem weights_append_of_solid {w cs : List Char} (hw : Chain.Solid w) (hcs : Chain.EndsWord cs) :
    weights (w ++ cs) = {w.count Chain.delimiter} + weights cs := by
  rw [weights, weights, Chain.words_append_of_solid hw hcs]
  rfl

theorem weights_intercalate {ws : List (List Char)} {cs : List Char} (hne : ws ≠ []) (hws : ∀ w ∈ ws, Chain.Solid w)
    (hcs : Chain.EndsWord cs) :
    weights ([' '].intercalate ws ++ cs) = (ws.map (List.count Chain.delimiter ·) : List Nat) + weights cs := by
  rw [weights, weights, Chain.words_intercalate_append hne hws hcs, List.map_append, Multiset.coe_add]

theorem Spread.endsWord {cs ds : List Char} (h : Spread cs ds) (hcs : Chain.EndsWord cs) : Chain.EndsWord ds := by
  cases h with
  | nil => exact Chain.endsWord_nil
  | blank hb _ => exact Chain.endsWord_cons.mpr hb
  | @word w cs ds ws hw _ _ _ =>
    obtain ⟨c, w, rfl⟩ := List.exists_cons_of_ne_nil hw.ne_nil
    rw [List.cons_append, Chain.endsWord_cons, hw.not_blank c (by simp)] at hcs
    simp at hcs

/-- Some weights stay, and each of the others is replaced by smaller ones; where none is, the text is the same. -/
theorem Spread.weights_replaced {cs ds : List Char} (h : Spread cs ds) :
    ∃ kept after before : Multiset Nat, weights ds = kept + after ∧ weights cs = kept + before ∧
      (∀ y ∈ after, ∃ z ∈ before, y < z) ∧ (before = 0 → ds = cs) := by
  induction h with
  | nil => exact ⟨0, 0, 0, rfl, rfl, by simp, fun _ => rfl⟩
  | @blank b cs ds hb _ ih =>
    obtain ⟨kept, after, before, hds, hcs, hlt, hsame⟩ := ih
    rw [weights_of_blank hb, weights_of_blank hb]
    exact ⟨kept, after, before, hds, hcs, hlt, fun h0 => by rw [hsame h0]⟩
  | @word w cs ds ws hw hend hws h ih =>
    obtain ⟨kept, after, before, hds, hcs, hlt, hsame⟩ := ih
    rw [weights_append_of_solid hw hend, weights_intercalate hws.ne_nil hws.solid (h.endsWord hend), hds, hcs]
    rcases hws.fewer with rfl | hfewer
    · refine ⟨{w.count Chain.delimiter} + kept, after, before, ?_, ?_, hlt, ?_⟩
      · rw [add_assoc]
        rfl
      · rw [add_assoc]
      · intro h0
        rw [hsame h0, List.intercalate_singleton]
    · refine ⟨kept, (ws.map (List.count Chain.delimiter ·) : List Nat) + after, {w.count Chain.delimiter} + before, ?_, ?_, ?_, ?_⟩
      · rw [add_left_comm]
      · rw [add_left_comm]
      · intro y hy
        rcases Multiset.mem_add.mp hy with hy | hy
        · obtain ⟨x, hx, rfl⟩ := List.mem_map.mp (Multiset.mem_coe.mp hy)
          exact ⟨w.count Chain.delimiter, by simp, hfewer x hx⟩
        · obtain ⟨z, hz, hyz⟩ := hlt y hy
          exact ⟨z, Multiset.mem_add.mpr (Or.inr hz), hyz⟩
      · intro h0
        simp at h0

/-- A pass that changes a document makes its weights smaller. -/
theorem Changes.weights_lt {cs ds : List Char} (h : Changes ds cs) :
    Multiset.IsDershowitzMannaLT (weights ds) (weights cs) := by
  obtain ⟨mode, rfl, hne⟩ := h
  obtain ⟨kept, after, before, hds, hcs, hlt, hsame⟩ := (spread_expand mode cs).weights_replaced
  exact ⟨kept, after, before, fun h0 => hne (hsame h0), hds, hcs, hlt⟩

theorem wellFounded_changes : WellFounded Changes := by
  have hsub : Subrelation Changes (InvImage Multiset.IsDershowitzMannaLT weights) := fun h => h.weights_lt
  exact hsub.wf (InvImage.wf weights Multiset.wellFounded_isDershowitzMannaLT)

theorem passes_add (modes : Nat → Mode) (cs : List Char) (k j : Nat) :
    passes modes cs (k + j) = passes (fun i => modes (k + i)) (passes modes cs k) j := by
  induction j with
  | zero => rfl
  | succ j ih => rw [← Nat.add_assoc, passes, passes, ih]

/-- Passes that change nothing lead to the document that they began with. -/
theorem passes_of_unchanged {modes : Nat → Mode} {cs : List Char} {k : Nat}
    (h : ∀ j < k, passes modes cs (j + 1) = passes modes cs j) : passes modes cs k = cs := by
  induction k with
  | zero => rfl
  | succ k ih => rw [h k (Nat.lt_succ_self k), ih fun j hj => h j (Nat.lt_succ_of_lt hj)]

/-- From some pass on a document stays as it is. -/
theorem exists_settled (modes : Nat → Mode) (cs : List Char) :
    ∃ n, ∀ k, n ≤ k → passes modes cs (k + 1) = passes modes cs k := by
  induction cs using wellFounded_changes.induction generalizing modes with
  | _ cs ih =>
    by_cases hall : ∀ k, passes modes cs (k + 1) = passes modes cs k
    · exact ⟨0, fun k _ => hall k⟩
    · push Not at hall
      obtain ⟨k, hk, hfirst⟩ := Nat.findX hall
      have hstart : passes modes cs k = cs := passes_of_unchanged fun j hj => not_not.mp (hfirst j hj)
      have hchange : Changes (passes modes cs (k + 1)) cs := by
        rw [passes, hstart] at hk ⊢
        exact ⟨modes k, rfl, hk⟩
      obtain ⟨n, hn⟩ := ih _ hchange fun i => modes (k + 1 + i)
      refine ⟨k + 1 + n, fun j hj => ?_⟩
      obtain ⟨i, rfl⟩ := Nat.exists_eq_add_of_le (Nat.le_of_add_right_le hj)
      have hlast := hn i (by omega)
      rwa [← passes_add, ← passes_add, ← Nat.add_assoc] at hlast

/-- Repeated expansion always settles: there is no endless row of documents each of which changes into the next, and in whatever
modes a document is written out again and again, only finitely many passes change it. -/
theorem expansion_settles :
    WellFounded Changes ∧
      ∀ (modes : Nat → Mode) (cs : List Char), {k | passes modes cs (k + 1) ≠ passes modes cs k}.Finite := by
  refine ⟨wellFounded_changes, ?_⟩
  intro modes cs
  obtain ⟨n, hn⟩ := exists_settled modes cs
  refine (Set.finite_lt_nat n).subset ?_
  intro k hk
  by_contra hle
  exact hk (hn k (Nat.le_of_not_lt hle))

end ClassChain.Document

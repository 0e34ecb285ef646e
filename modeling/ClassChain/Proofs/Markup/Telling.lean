import ClassChain.Proofs.Literal.Refusal
import ClassChain.Proofs.Markup.Closing

/-!
# What is told of tags

A fault of a closing tag quotes it. What is told of any other fault of markup or of styles has no opening bracket in it
(`Display.tellable_of_fault?`), for a tag has none between its brackets, so none stands in the call of an open tag, and what is told
of its given values has none either.
-/

namespace ClassChain

open Literal (Safe Unbracketed unbracketed_append unbracketed_cons unbracketed_ofList unbracketed_toString)

namespace Text

variable {cs : List Char}

theorem unbracketed_escapeIn {quote c : Char} (hc : c ≠ '[') : Unbracketed (escapeIn quote c) := by
  have hhex (before : Char) (hbefore : before ≠ '[') (width : Nat) : Unbracketed ('\\' :: before :: hex width c.toNat) :=
    unbracketed_cons.mpr ⟨by decide, unbracketed_cons.mpr ⟨hbefore, Literal.unbracketed_hex width c.toNat⟩⟩
  unfold escapeIn
  split
  · exact unbracketed_cons.mpr ⟨by decide, unbracketed_cons.mpr ⟨hc, by decide⟩⟩
  · split
    · decide
    · split
      · decide
      · split
        · decide
        · split
          · exact unbracketed_cons.mpr ⟨hc, by decide⟩
          · split
            · exact hhex 'x' (by decide) 2
            · split
              · exact hhex 'u' (by decide) 4
              · exact hhex 'U' (by decide) 8

theorem unbracketed_quoted (h : Unbracketed cs) : Unbracketed (quoted (String.ofList cs)).toList := by
  have hquote : quoteFor cs ≠ '[' := by
    unfold quoteFor
    split <;> decide
  have hinner : Unbracketed (cs.flatMap (escapeIn (quoteFor cs))) := fun hmem => by
    obtain ⟨c, hc, hmem⟩ := List.mem_flatMap.mp hmem
    exact unbracketed_escapeIn (fun heq => h (heq ▸ hc)) hmem
  rw [quoted, String.toList_ofList, String.toList_ofList]
  simp only [unbracketed_cons, unbracketed_append]
  exact ⟨hquote, hinner, hquote, by decide⟩

theorem trimBlanks_subset (cs : List Char) : trimBlanks cs ⊆ cs := fun c hc => by
  have hback := (List.dropWhile_suffix _).subset (List.mem_reverse.mp hc)
  exact (List.dropWhile_suffix _).subset (List.mem_reverse.mp hback)

end Text

namespace Markup

section

variable {call body : List Char} {fault : Fault} {r : Reading}

theorem unbracketed_given (h : Unbracketed call) : Unbracketed (given call) := by
  have htrimmed := h.of_subset (Text.trimBlanks_subset call)
  have hrest := htrimmed.of_suffix (List.dropWhile_suffix isCallName)
  unfold given
  dsimp only
  split
  · decide
  · rename_i rest heq
    split
    · rwa [heq] at hrest
    · exact htrimmed
  · exact htrimmed

/-- What is told of a call quotes it and what is told of its given values. -/
theorem unbracketed_of_callFault? {told : CallFault} (h : Unbracketed call) (hfault : callFault? call = some told) :
    Unbracketed told.message.toList := by
  unfold callFault? at hfault
  split at hfault
  · cases hfault
  · rename_i refusal hread
    cases hfault
    have hrefusal := Literal.mild_of_read (unbracketed_given h) hread
    have hcall := Text.unbracketed_quoted h
    have hgiven := Text.unbracketed_quoted (unbracketed_given h)
    unfold CallFault.message
    dsimp only
    simp only [String.toList_append, unbracketed_append]
    refine ⟨⟨⟨⟨unbracketed_ofList (by decide), ?_⟩, hcall⟩, unbracketed_ofList (by decide)⟩, hrefusal.message⟩
    split
    · split
      · exact unbracketed_ofList (by decide)
      · rw [String.toList_append, unbracketed_append]
        exact ⟨hgiven, unbracketed_ofList (by decide)⟩
    · exact unbracketed_ofList (by decide)

theorem AmountFault.unbracketed_message (told : AmountFault) : Unbracketed told.message.toList := by
  cases told with
  | missing => exact unbracketed_ofList (by decide)
  | tooLong digits =>
    unfold AmountFault.message
    simp only [String.toList_append, unbracketed_append]
    refine ⟨⟨?_, unbracketed_toString digits⟩, ?_⟩ <;> exact unbracketed_ofList (by decide)

/-- What is told of it quotes a closing tag, or has no opening brackets. -/
def Fault.Tellable (fault : Fault) : Prop := fault.closing? = none → Unbracketed fault.message.toList

/-- The calls of open tags have no opening brackets. -/
def Reading.Mild (r : Reading) : Prop := ∀ t ∈ r.opened, Unbracketed (t.value?.getD [])

theorem tellable_amount (told : AmountFault) : (Fault.amount told).Tellable := fun _ => told.unbracketed_message

theorem safe_tagName (name : List Char) : Safe Fault.Tellable (fun _ => True) (tagName name) := by
  unfold tagName
  cases normalName name with
  | ok n => trivial
  | error told => exact tellable_amount told

theorem safe_close {t : Tag} (h : Unbracketed (t.value?.getD [])) (stop : Nat) :
    Safe Fault.Tellable (fun _ => True) (t.close stop) := by
  unfold Tag.close
  split
  · split
    · rename_i told htold
      exact fun _ => unbracketed_of_callFault? h htold
    · trivial
  · trivial

theorem IsBody.unbracketed (h : IsBody body) : Unbracketed body := by
  obtain ⟨c, cs, rfl, hstart, hcs⟩ := h
  refine unbracketed_cons.mpr ⟨?_, fun hmem => absurd (hcs _ hmem) (by decide)⟩
  rintro rfl
  exact absurd hstart (by decide)

theorem unbracketed_partsOf (h : Unbracketed body) : Unbracketed ((partsOf body).2.getD []) := by
  unfold partsOf
  split
  · exact List.not_mem_nil
  · rename_i c value heq
    exact (unbracketed_cons.mp (heq ▸ h.of_suffix (List.dropWhile_suffix (· != '=')))).2

/-- Taking a tag comes to a fault that can be told, or keeps the calls of open tags so. -/
theorem Reading.Mild.take (hr : r.Mild) (hbody : Unbracketed body) (position : Nat) :
    Safe Fault.Tellable Reading.Mild (r.take position body) := by
  have hvalue := unbracketed_partsOf hbody
  unfold Reading.take
  dsimp only
  split
  · rename_i name value? hparts
    split
    · split
      · exact fun hclosing => by cases hclosing
      · rename_i t below hopened
        have hopen : ∀ t ∈ r.opened, Unbracketed (t.value?.getD []) := hr
        rw [hopened] at hopen
        exact Safe.bind (safe_close (hopen t List.mem_cons_self) _) fun _ _ t ht => hopen t (List.mem_cons_of_mem _ ht)
    · refine Safe.bind (safe_tagName name) fun n _ => ?_
      split
      · rename_i t hfind
        exact Safe.bind (safe_close (hr t (List.mem_of_find?_eq_some hfind)) _) fun _ _ t ht => hr t (List.mem_of_mem_eraseP ht)
      · exact fun hclosing => by cases hclosing
  · rename_i name value? _ hparts
    rw [hparts] at hvalue
    exact Safe.bind (safe_tagName name) fun n _ => List.forall_mem_cons.mpr ⟨hvalue, hr⟩

/-- Reading comes to a fault that can be told, or keeps the calls of open tags so. -/
theorem Reading.Mild.readFrom {ps : List Piece} (hr : r.Mild) (hbody : ∀ slashes body, .tag slashes body ∈ ps → IsBody body)
    (position : Nat) : Safe Fault.Tellable Reading.Mild (r.readFrom position ps) := by
  induction ps generalizing r position with
  | nil => exact hr
  | cons p ps ih =>
    have hrest : ∀ slashes body, .tag slashes body ∈ ps → IsBody body := fun slashes body hmem =>
      hbody slashes body (List.mem_cons_of_mem p hmem)
    cases p with
    | plain c =>
      rw [Reading.readFrom]
      refine ih ?_ hrest _
      split
      · exact hr
      · exact hr
    | tag slashes body =>
      have htake := Reading.Mild.take (r := r.show (halved slashes)) hr (hbody slashes body List.mem_cons_self).unbracketed
        (position + slashes)
      rw [Reading.readFrom]
      split
      · exact ih (r := (r.show (halved slashes)).show ('[' :: (body ++ [']']))) hr hrest _
      · split
        · rename_i next heq
          rw [heq] at htake
          exact ih htake hrest _
        · rename_i told heq
          rwa [heq] at htake

/-- What is wrong with text can be told. -/
theorem tellable_of_read {cs : List Char} (h : read cs = .error fault) : fault.Tellable := by
  have hsafe : Safe Fault.Tellable (fun _ => True) (read cs) :=
    Safe.bind (Reading.Mild.readFrom (r := {}) (List.forall_mem_nil _) (fun _ _ => isBody_of_mem_pieces) 0) fun _ _ => trivial
  rwa [h] at hsafe

end

end Markup

/-- What is wrong with something that is shown can be told. -/
theorem Display.tellable_of_fault? {d : Display} {fault : Markup.Fault} (h : d.fault? = some fault) : fault.Tellable := by
  obtain ⟨markup, hread⟩ | ⟨amount, rfl⟩ := Display.read_or_amount_of_fault? h
  · exact Markup.tellable_of_read hread
  · exact Markup.tellable_amount amount

end ClassChain

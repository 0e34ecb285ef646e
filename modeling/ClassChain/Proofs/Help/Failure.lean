import ClassChain.Help
import ClassChain.Proofs.Markup.Telling

/-!
# Help pages that fail

The parts of a page are shown up to the first with a fault (`showAll_eq_iff`), which is told of in one line more. This line is markup
with the telling in it as it is. That does no harm to most of what can be told, which has no tag in it, but a closing tag with nothing
to close is quoted in it, and has nothing to close there either: then, and only then, the page fails with a fault of the same kind
(`pages_fare`).
-/

namespace ClassChain

open Markup (Fault Quiet IsClosing)

/-- So much of what is to be shown is shown, for a fault in what comes next. -/
inductive Stops : List Display → List Display → Fault → Prop
  | here {d : Display} {rest : List Display} {fault : Fault} : d.fault? = some fault → Stops (d :: rest) [] fault
  | later {d : Display} {rest shown : List Display} {fault : Fault} :
      d.fault? = none → Stops rest shown fault → Stops (d :: rest) (d :: shown) fault

section

variable {ds shown : List Display} {fault : Fault} {told : List Char}

theorem Stops.exists_fault (h : Stops ds shown fault) : ∃ d ∈ ds, d.fault? = some fault := by
  induction h with
  | @here d _ _ hfault => exact ⟨d, List.mem_cons_self, hfault⟩
  | later _ _ ih =>
    obtain ⟨d, hd, hfault⟩ := ih
    exact ⟨d, List.mem_cons_of_mem _ hd, hfault⟩

/-- All of it has no fault, or showing stops at one. -/
theorem no_fault_or_stops (ds : List Display) : (∀ d ∈ ds, d.fault? = none) ∨ ∃ shown fault, Stops ds shown fault := by
  induction ds with
  | nil => exact .inl (List.forall_mem_nil _)
  | cons d ds ih =>
    cases hfault : d.fault? with
    | some fault => exact .inr ⟨[], fault, .here hfault⟩
    | none =>
      rcases ih with hnone | ⟨shown, fault, h⟩
      · exact .inl (List.forall_mem_cons.mpr ⟨hfault, hnone⟩)
      · exact .inr ⟨d :: shown, fault, .later hfault h⟩

/-- Showing one after another stops at the first fault. -/
theorem showAll_eq_iff : showAll ds = ⟨shown, some fault⟩ ↔ Stops ds shown fault := by
  constructor
  · intro h
    induction ds generalizing shown with
    | nil => cases h
    | cons d ds ih =>
      rw [showAll] at h
      split at h
      · rename_i other hfault
        obtain ⟨rfl, hother⟩ := Showing.mk.inj h
        obtain rfl := Option.some.inj hother
        exact .here hfault
      · rename_i hfault
        obtain ⟨rfl, hother⟩ := Showing.mk.inj h
        exact .later hfault (ih (congrArg (Showing.mk _) hother))
  · intro h
    induction h with
    | here hfault => rw [showAll, hfault]
    | later hfault _ ih => rw [showAll, hfault, ih]

end

namespace Help

/-! ## Pages by their parts -/

/-- What a page is to show, and what goes wrong after all of it, if anything. -/
structure Plan where
  displays : List Display
  cause? : Option String

/-- The page of a group: how it is called, its help, its commands and its options. A number for the help is noticed late. -/
def Group.plan (g : Group) : Plan :=
  let rest := commandLines g.commands ++ optionLines g.options
  match g.help with
  | .none | .text "" => ⟨usageLine g :: rest, none⟩
  | .text help => ⟨usageLine g :: .line (styled "bold cyan" (trimmed help) ++ "\n") :: rest, none⟩
  | .number => ⟨[usageLine g], some "'int' object has no attribute 'strip'"⟩

/-- The page of a command: its help in a frame. -/
def Source.plan : Source → Plan
  | .none | .text "" => ⟨[panel "No help text available."], .none⟩
  | .text help => ⟨[panel help], .none⟩
  | .number => ⟨[], some "'int' object has no attribute 'splitlines'"⟩

/-- What a page comes to: it is whole, or ends with the telling of what went wrong, unless that fails too, which it does exactly when
the first fault is of a closing tag with nothing to close. -/
structure Fares (plan : Plan) (page : Page) : Prop where
  whole : (∀ d ∈ plan.displays, d.fault? = none) → plan.cause? = none → page = ⟨⟨plan.displays, none⟩, []⟩
  broken : (∀ d ∈ plan.displays, d.fault? = none) → ∀ cause, plan.cause? = some cause →
    page = ⟨⟨plan.displays ++ [failureLine cause], none⟩, [.unshown cause]⟩
  told : ∀ shown fault, Stops plan.displays shown fault → fault.closing? = none →
    page = ⟨⟨shown ++ [failureLine fault.message], none⟩, [.unshown fault.message]⟩
  lost : ∀ shown fault, Stops plan.displays shown fault → fault.closing?.isSome = true →
    ∃ again, again.closing?.isSome = true ∧ page = ⟨⟨shown, some again⟩, [.unshown fault.message]⟩
  fails_iff : page.showing.fault?.isSome = true ↔ ∃ shown fault, Stops plan.displays shown fault ∧ fault.closing?.isSome = true

section

variable {ds shown : List Display} {fault : Fault} {body before more : List Char} {cause : String}

/-! ## The line that tells -/

theorem bland_title : Markup.Bland "Help rendering error:".toList := by decide

/-- What has no tag that is taken can be told. -/
theorem failureLine_of_quiet (h : Quiet cause.toList) : (failureLine cause).fault? = none := by
  have hstyle : Markup.IsStyle "bold red" := Markup.isStyle_bold "red" (by decide)
  have hafter : Quiet (" " ++ cause).toList := by
    rw [String.toList_append]
    exact h.bland_append (by decide)
  have hsound := Markup.sound_behind_styled hstyle bland_title hafter
  rw [← String.append_assoc] at hsound
  exact Display.fault?_eq_none fun markup hmem => List.mem_singleton.mp hmem ▸ hsound

/-- What quotes a closing tag cannot be told: nothing is open there. -/
theorem failureLine_of_isClosing (h : IsClosing body) (hbefore : Markup.Bland before)
    (hcause : cause.toList = before ++ '[' :: (body ++ ']' :: more)) :
    ∃ fault, (failureLine cause).fault? = some fault ∧ fault.closing?.isSome = true := by
  have hstyle : Markup.IsStyle "bold red" := Markup.isStyle_bold "red" (by decide)
  have hspace : Markup.Bland (' ' :: before) := List.forall_mem_cons.mpr ⟨by decide, hbefore⟩
  obtain ⟨fault, hread, hclosing⟩ := Markup.exists_fault_behind_styled hstyle bland_title hspace h more
  have htext : (styled "bold red" "Help rendering error:" ++ " " ++ cause).toList =
      (styled "bold red" "Help rendering error:").toList ++ (' ' :: before ++ '[' :: (body ++ ']' :: more)) := by
    rw [String.toList_append, String.toList_append, hcause, List.append_assoc]
    rfl
  exact ⟨fault, Display.fault?_of_read rfl (htext ▸ hread), hclosing⟩

/-! ## Pages -/

theorem failed_of_none (h : (failureLine cause).fault? = none) (shown : List Display) :
    failed shown cause = ⟨⟨shown ++ [failureLine cause], none⟩, [.unshown cause]⟩ := by
  rw [failed, showAll_of_no_fault (by simpa using h)]

theorem failed_of_some (h : (failureLine cause).fault? = some fault) (shown : List Display) :
    failed shown cause = ⟨⟨shown, some fault⟩, [.unshown cause]⟩ := by
  rw [failed, showAll_eq_iff.mpr (.here h), List.append_nil]

/-- A fault on a page that is not of a closing tag is told. -/
theorem failed_of_told (h : Stops ds shown fault) (hclosing : fault.closing? = none) :
    failed shown fault.message = ⟨⟨shown ++ [failureLine fault.message], none⟩, [.unshown fault.message]⟩ := by
  obtain ⟨d, -, hfault⟩ := h.exists_fault
  exact failed_of_none (failureLine_of_quiet (Markup.quiet_of_not_mem (Display.tellable_of_fault? hfault hclosing))) shown

/-- One that is of a closing tag is not. -/
theorem failed_of_lost (h : Stops ds shown fault) (hclosing : fault.closing?.isSome = true) :
    ∃ again, again.closing?.isSome = true ∧ failed shown fault.message = ⟨⟨shown, some again⟩, [.unshown fault.message]⟩ := by
  obtain ⟨told, htold⟩ := Option.isSome_iff_exists.mp hclosing
  obtain ⟨d, -, hfault⟩ := h.exists_fault
  obtain ⟨more, hmessage⟩ := Markup.message_of_closing? htold
  obtain ⟨again, hline, hagain⟩ := failureLine_of_isClosing (Display.isClosing_of_fault? hfault htold) (by decide) hmessage
  exact ⟨again, hagain, failed_of_some hline shown⟩

theorem fares_of_eq {plan : Plan} {page : Page}
    (hwhole : (∀ d ∈ plan.displays, d.fault? = none) →
      page = plan.cause?.elim ⟨⟨plan.displays, none⟩, []⟩ (failed plan.displays))
    (hstops : ∀ shown fault, Stops plan.displays shown fault → page = failed shown fault.message)
    (hcause : ∀ cause ∈ plan.cause?, Quiet cause.toList) : Fares plan page := by
  have hshown : (∀ d ∈ plan.displays, d.fault? = none) → ∀ cause ∈ plan.cause?,
      page = ⟨⟨plan.displays ++ [failureLine cause], none⟩, [.unshown cause]⟩ := fun hnone cause hsome => by
    rw [hwhole hnone, Option.mem_def.mp hsome]
    exact failed_of_none (failureLine_of_quiet (hcause cause hsome)) _
  have htold : ∀ shown fault, Stops plan.displays shown fault → fault.closing? = none →
      page = ⟨⟨shown ++ [failureLine fault.message], none⟩, [.unshown fault.message]⟩ := fun shown fault h hclosing =>
    (hstops shown fault h).trans (failed_of_told h hclosing)
  have hlost : ∀ shown fault, Stops plan.displays shown fault → fault.closing?.isSome = true →
      ∃ again, again.closing?.isSome = true ∧ page = ⟨⟨shown, some again⟩, [.unshown fault.message]⟩ :=
    fun shown fault h hclosing => hstops shown fault h ▸ failed_of_lost h hclosing
  refine ⟨fun hnone hno => by rw [hwhole hnone, hno]; rfl, hshown, htold, hlost, fun hfails => ?_, ?_⟩
  · -- a page fails only where showing stops, and then not at a fault that can be told
    obtain hnone | ⟨shown, fault, h⟩ := no_fault_or_stops plan.displays
    · cases hcause? : plan.cause? with
      | none =>
        rw [hwhole hnone, hcause?] at hfails
        cases hfails
      | some cause =>
        rw [hshown hnone cause hcause?] at hfails
        cases hfails
    · cases hclosing : fault.closing? with
      | none =>
        rw [htold shown fault h hclosing] at hfails
        cases hfails
      | some body => exact ⟨shown, fault, h, by rw [hclosing]; rfl⟩
  · rintro ⟨shown, fault, h, hclosing⟩
    obtain ⟨again, -, hpage⟩ := hlost shown fault h hclosing
    rw [hpage]
    rfl

theorem fares_present (ds : List Display) : Fares ⟨ds, none⟩ (present ds) := by
  refine fares_of_eq (fun hnone => ?_) (fun shown fault h => ?_) (fun cause hcause => by cases hcause)
  · rw [present, showAll_of_no_fault hnone]
    rfl
  · rw [present, showAll_eq_iff.mpr h]

/-- What the page of a group comes to, whatever its path, its help, its commands and its options are. -/
theorem fares_groupPage (g : Group) : Fares g.plan (groupPage g) := by
  have hquiet : ∀ cause ∈ some "'int' object has no attribute 'strip'", Quiet cause.toList := fun cause hcause => by
    obtain rfl := Option.some.inj hcause
    exact Markup.quiet_of_not_mem (by decide)
  unfold Group.plan groupPage
  cases g.help with
  | none => exact fares_present _
  | text help =>
    obtain rfl | hempty := eq_or_ne help ""
    · exact fares_present _
    · simpa only [hempty] using fares_present _
  | number =>
    refine fares_of_eq (fun hnone => ?_) (fun shown fault h => ?_) hquiet
    · rw [showAll_of_no_fault hnone]
      rfl
    · rw [showAll_eq_iff.mpr h]

theorem fares_commandPage (help : Source) : Fares help.plan (commandPage help) := by
  have hquiet : ∀ cause ∈ some "'int' object has no attribute 'splitlines'", Quiet cause.toList := fun cause hcause => by
    obtain rfl := Option.some.inj hcause
    exact Markup.quiet_of_not_mem (by decide)
  unfold Source.plan commandPage
  split
  case h_1 => exact fares_present _
  case h_2 => exact fares_present _
  case h_3 help hempty => simpa only using fares_present _
  case h_4 => exact fares_of_eq (fun _ => rfl) (fun shown fault h => by cases h) hquiet

/-- What the pages of a group and of a command come to, whatever their texts are: they are shown, with what went wrong in the last line,
but for a closing tag with nothing to close. -/
theorem pages_fare (g : Group) (help : Source) : Fares g.plan (groupPage g) ∧ Fares help.plan (commandPage help) :=
  ⟨fares_groupPage g, fares_commandPage help⟩

end

/-- A help text with a closing tag alone is not shown, and nor is what went wrong. -/
theorem closing_tag_lost : (commandPage (.text "a[/x]")).showing.fault?.isSome = true := by
  have hbland : Markup.Bland ['a'] := by decide
  obtain ⟨fault, hread, hfault⟩ := Markup.exists_fault_of_isClosing hbland Markup.Sample.isClosing_closing []
  have hstops : Stops (Source.text "a[/x]").plan.displays [] fault := .here (Display.fault?_of_read rfl hread)
  obtain ⟨again, -, hpage⟩ := (fares_commandPage (.text "a[/x]")).lost _ _ hstops hfault
  rw [hpage]
  rfl

end Help

end ClassChain

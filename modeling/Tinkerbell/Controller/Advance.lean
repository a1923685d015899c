import Tinkerbell.Controller.Hardware

/-!
Owns: what every part of preparing and post handling may do to a workflow. The
parts change the state, the boot options and the conditions of the status and
nothing else, they append to the log, and they record a toggle only together
with an accepted update of the Hardware.

The relation is reflexive and transitive, so a part made of smaller parts gets
it by composing theirs.
-/

namespace Tinkerbell.Controller

open Api

/-- One part of a reconcile took `before` to `after`. -/
structure State.Advances (before after : State) : Prop where
  workflow : after.workflow = { before.workflow with
    status := { before.status with
      state := after.status.state
      bootOptions := after.status.bootOptions
      conditions := after.status.conditions } }
  events : before.events <+: after.events
  toggled : ∀ allowPXE,
    isToggled allowPXE before.status.bootOptions.allowNetboot = true →
      isToggled allowPXE after.status.bootOptions.allowNetboot = true
  logged : ∀ allowPXE,
    isToggled allowPXE after.status.bootOptions.allowNetboot = true →
      isToggled allowPXE before.status.bootOptions.allowNetboot = true ∨
        ∃ hardware, Event.hardwareUpdated hardware ∈ after.events ∧
          AllowsPXE allowPXE hardware

namespace State.Advances

theorem of_untoggled {before after : State}
    (workflow : after.workflow = { before.workflow with
      status := { before.status with
        state := after.status.state
        bootOptions := after.status.bootOptions
        conditions := after.status.conditions } })
    (events : before.events <+: after.events)
    (untoggled : after.status.bootOptions.allowNetboot =
      before.status.bootOptions.allowNetboot) : before.Advances after where
  workflow
  events
  toggled := fun allowPXE already => by rw [untoggled]; exact already
  logged := fun allowPXE now => by
    rw [untoggled] at now
    exact Or.inl now

variable (state : State)

theorem refl : state.Advances state :=
  of_untoggled rfl (List.prefix_refl _) rfl

theorem trans {first second third : State} (left : first.Advances second)
    (right : second.Advances third) : first.Advances third where
  workflow := by
    have secondStatus : second.status = { first.status with
        state := second.status.state
        bootOptions := second.status.bootOptions
        conditions := second.status.conditions } := by
      conv_lhs => rw [State.status, left.workflow]
    rw [right.workflow, left.workflow, secondStatus]
  events := left.events.trans right.events
  toggled := fun allowPXE already =>
    right.toggled allowPXE (left.toggled allowPXE already)
  logged := fun allowPXE now => by
    rcases right.logged allowPXE now with earlier | logged
    · rcases left.logged allowPXE earlier with first | ⟨hardware, member, allows⟩
      · exact Or.inl first
      · exact Or.inr ⟨hardware, right.events.subset member, allows⟩
    · exact Or.inr logged

section Kept

variable {before after : State} (advances : before.Advances after)
include advances

theorem status : after.status = { before.status with
    state := after.status.state
    bootOptions := after.status.bootOptions
    conditions := after.status.conditions } := by
  conv_lhs => rw [State.status, advances.workflow]

theorem currentState : after.status.currentState = before.status.currentState := by
  rw [advances.status]

end Kept

theorem setWorkflowState (workflowState : WorkflowState) :
    state.Advances (state.setWorkflowState workflowState) :=
  of_untoggled rfl (List.prefix_refl _) rfl

theorem setCondition (condition : WorkflowCondition) :
    state.Advances (state.setCondition condition) :=
  of_untoggled rfl (List.prefix_refl _) rfl

theorem setConditionIfDifferent (condition : WorkflowCondition) :
    state.Advances (state.setConditionIfDifferent condition) := by
  unfold State.setConditionIfDifferent WorkflowStatus.setConditionIfDifferent
  split
  · split
    · exact refl state
    · exact setCondition state condition
  · exact setCondition state condition

end State.Advances

theorem isToggled_recordToggle (allowPXE : Bool) (status : AllowNetbootStatus) :
    isToggled allowPXE (recordToggle allowPXE status) = true := by
  cases allowPXE <;> rfl

variable {allowPXE : Bool} {status : AllowNetbootStatus}

theorem isToggled_recordToggle_of_isToggled (recorded : Bool)
    (already : isToggled allowPXE status = true) :
    isToggled allowPXE (recordToggle recorded status) = true := by
  cases allowPXE <;> cases recorded <;> first | rfl | exact already

theorem isToggled_of_recordToggle {recorded : Bool}
    (now : isToggled allowPXE (recordToggle recorded status) = true) :
    allowPXE = recorded ∨ isToggled allowPXE status = true := by
  cases allowPXE <;> cases recorded <;> first | exact Or.inl rfl | exact Or.inr now

theorem toggleHardware_spec (replies : Replies) (state : State) (allowPXE : Bool) :
    state.Advances (toggleHardware replies state allowPXE).1 ∧
      ((toggleHardware replies state allowPXE).2 = none →
        isToggled allowPXE
          (toggleHardware replies state allowPXE).1.status.bootOptions.allowNetboot = true) := by
  unfold toggleHardware
  split
  · refine ⟨State.Advances.setConditionIfDifferent _ _, ?_⟩
    intro noError
    cases noError
  · next _ _ =>
    split
    · next already => exact ⟨State.Advances.refl state, fun _ => already⟩
    · split
      · refine ⟨State.Advances.setConditionIfDifferent _ _, ?_⟩
        intro noError
        cases noError
      · next _ returned =>
        obtain ⟨updated, rfl, allows⟩ := setAllowPXE_no_error returned
        refine ⟨⟨rfl, List.prefix_append _ _, ?_, ?_⟩, fun _ => ?_⟩
        · intro value already
          exact isToggled_recordToggle_of_isToggled allowPXE already
        · intro value now
          rcases isToggled_of_recordToggle now with rfl | already
          · exact Or.inr ⟨updated, List.mem_append_right _ (List.mem_singleton.mpr rfl), allows⟩
          · exact Or.inl already
        · exact isToggled_recordToggle allowPXE _

end Tinkerbell.Controller

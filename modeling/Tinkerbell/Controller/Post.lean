import Tinkerbell.Controller.Preparing

/-!
Owns: what the controller does with a workflow in state POST: toggle `allowPXE`
back, run the eject or post Job of the boot mode, and take the final state over
from the current state.
-/

namespace Tinkerbell.Controller

open Api

def ejectActions : List Bmc.Action :=
  [{ virtualMediaAction := some { mediaURL := "", kind := .cd } }]

def adoptCurrentState (state : State) : State :=
  match state.status.currentState with
  | some currentState => state.setWorkflowState currentState.state
  | none => state

/-- Advance the post Job; the workflow ends once it is complete, or at once
when `noActions` says that there is nothing to run. -/
def finishWithJob (replies : Replies) (state : State) (name : String)
    (actions : List Bmc.Action) (noActions : Bool) : Outcome :=
  let outcome := handleJob replies state actions name
  match outcome.error with
  | some _ => { outcome with state := outcome.state.setWorkflowState .failed }
  | none =>
    if (outcome.state.status.job name).complete ∨ noActions then
      { outcome with state := adoptCurrentState outcome.state }
    else outcome

def postBoot (replies : Replies) (state : State) : Outcome :=
  let wf := state.workflow
  match wf.spec.bootOptions.bootMode with
  | .iso | .isoboot =>
    let name := jobName jobNameISOEject wf
    if jobDue state.status name then
      if wf.spec.bootOptions.isoURL = "" then
        failWith state "iso url must be a valid url"
      else finishWithJob replies state name ejectActions false
    else { state := adoptCurrentState state }
  | .customboot =>
    let name := jobName jobNameCustombootPost wf
    if jobDue state.status name then
      match hardwareFrom wf replies.bootHardware with
      | .error err => failWith state ("failed to get hardware: " ++ err)
      | .ok hardware =>
        match templateActions replies.render hardware
            wf.spec.bootOptions.custombootConfig.postActions with
        | .error err => failWith state ("failed to template post actions: " ++ err)
        | .ok actions =>
          finishWithJob replies state name actions
            (wf.spec.bootOptions.custombootConfig.postActions = [])
    else { state := adoptCurrentState state }
  | _ => { state := adoptCurrentState state }

def postActions (replies : Replies) (state : State) : Outcome :=
  match toggleIfDue replies state false with
  | (state, some err) => failWith state err
  | (state, none) => postBoot replies state

/-- The workflow took over the state of its current action. -/
def Adopted (before after : State) : Prop :=
  ∃ currentState, before.status.currentState = some currentState ∧
    after.status.state = currentState.state

theorem works_adoptCurrentState {handled : Option String} {before after : State}
    (advances : before.Advances after) (steps : State.StepsJobs handled before after)
    (sameState : after.status.state = before.status.state) :
    State.Works handled (Adopted before) before (adoptCurrentState after) := by
  unfold adoptCurrentState
  split
  · next currentState isCurrent =>
    refine ⟨advances.trans (State.Advances.setWorkflowState after _),
      steps.setWorkflowState _, Or.inr (Or.inr ⟨currentState, ?_, rfl⟩)⟩
    rw [← advances.currentState]
    exact isCurrent
  · exact ⟨advances, steps, Or.inl sameState⟩

variable (replies : Replies) (state : State)

theorem works_finishWithJob (name : String) (actions : List Bmc.Action) (noActions : Bool) :
    State.Works (some name) (Adopted state) state
      (finishWithJob replies state name actions noActions).state := by
  have handles := handles_handleJob replies state actions name
  unfold finishWithJob
  simp only
  split
  · exact handles.works .failed (Or.inl rfl)
  · split
    · exact works_adoptCurrentState handles.advances handles.stepsJobs handles.state
    · exact handles.works_same

def postJobName (wf : Workflow) : Option String :=
  match wf.spec.bootOptions.bootMode with
  | .iso | .isoboot => some (jobName jobNameISOEject wf)
  | .customboot => some (jobName jobNameCustombootPost wf)
  | _ => none

inductive PostsBoot (replies : Replies) (state : State) : Outcome → Prop
  | adopts : PostsBoot replies state { state := adoptCurrentState state }
  | fails (err : String) : PostsBoot replies state (failWith state err)
  | finishes {name : String} (isJob : postJobName state.workflow = some name)
      {actions : List Bmc.Action} {noActions : Bool}
      (hasActions : actions = [] → noActions = true) :
      PostsBoot replies state (finishWithJob replies state name actions noActions)

theorem postsBoot_postBoot : PostsBoot replies state (postBoot replies state) := by
  have isoEject : postJobName state.workflow =
        some (jobName jobNameISOEject state.workflow) →
      PostsBoot replies state
        (if jobDue state.status (jobName jobNameISOEject state.workflow) then
          if state.workflow.spec.bootOptions.isoURL = "" then
            failWith state "iso url must be a valid url"
          else finishWithJob replies state (jobName jobNameISOEject state.workflow)
            ejectActions false
        else { state := adoptCurrentState state }) := by
    intro isJob
    split
    · split
      · exact .fails _
      · exact .finishes isJob (by simp [ejectActions])
    · exact .adopts
  unfold postBoot
  simp only
  split
  · next mode => exact isoEject (by simp [postJobName, mode])
  · next mode => exact isoEject (by simp [postJobName, mode])
  · next mode =>
    split
    · split
      · exact .fails _
      · split
        · exact .fails _
        · next rendered =>
          refine .finishes (by simp [postJobName, mode]) ?_
          rintro rfl
          by_contra notEmpty
          exact templateActions_ne_nil (by simpa using notEmpty) rendered rfl
    · exact .adopts
  · exact .adopts

theorem works_postBoot :
    State.Works (postJobName state.workflow) (Adopted state) state
      (postBoot replies state).state := by
  have posts := postsBoot_postBoot replies state
  generalize postBoot replies state = outcome at posts
  cases posts with
  | adopts =>
    exact works_adoptCurrentState (State.Advances.refl state)
      ((State.SparesJobs.refl state).stepsJobs _) rfl
  | fails err => exact works_failWith _ _ state err
  | finishes isJob =>
    rw [isJob]
    exact works_finishWithJob replies state _ _ _

theorem works_postActions :
    State.Works (postJobName state.workflow)
      (fun after => Adopted state after ∧
        (state.workflow.spec.bootOptions.toggleAllowNetboot = true →
          isToggled false after.status.bootOptions.allowNetboot = true))
      state (postActions replies state).state := by
  have toggles := toggles_toggleIfDue replies state false
  unfold postActions
  split
  · next toggledState err returned =>
    rw [returned] at toggles
    exact State.Works.after_spares toggles.advances toggles.spares toggles.sameState
      (works_failWith _ _ toggledState err)
  · next toggledState returned =>
    rw [returned] at toggles
    have sameName : postJobName toggledState.workflow = postJobName state.workflow := by
      rw [toggles.advances.workflow]
      rfl
    have boots := works_postBoot replies toggledState
    rw [sameName] at boots
    refine (State.Works.after_spares toggles.advances toggles.spares
      toggles.sameState boots).mono fun adopted => ⟨?_, fun wanted => ?_⟩
    · obtain ⟨currentState, isCurrent, entered⟩ := adopted
      rw [toggles.advances.currentState] at isCurrent
      exact ⟨currentState, isCurrent, entered⟩
    · exact boots.advances.toggled false (toggles.toggled rfl wanted)

end Tinkerbell.Controller

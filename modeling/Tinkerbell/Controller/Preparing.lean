import Tinkerbell.Controller.Job

/-!
Owns: what the controller does with a workflow in state PREPARING: toggle
`allowPXE`, then bring the machine up through the Job of the boot mode.

The branches of the boot modes share `bootWithJob`; each keeps its own Job name,
actions and the condition it records when the Hardware cannot be read.
-/

namespace Tinkerbell.Controller

open Api

def jobNameNetboot : String := "netboot"

def jobNameISOMount : String := "iso-mount"

def jobNameISOEject : String := "iso-eject"

def jobNameCustombootPreparing : String := "customboot-preparing"

def jobNameCustombootPost : String := "customboot-post"

def jobName (jobKind : String) (wf : Workflow) : String := jobKind ++ "-" ++ wf.name

def jobDue (status : WorkflowStatus) (name : String) : Bool :=
  !(status.job name).existingJobDeleted || (status.job name).uid = "" ||
    !(status.job name).complete

def efiBoot (hardware : Hardware) : Bool :=
  hardware.spec.interfaces.any fun iface =>
    match iface.dhcp with
    | some dhcp => dhcp.uefi
    | none => false

def netbootActions (hardware : Hardware) : List Bmc.Action :=
  [{ powerAction := some .hardOff },
   { oneTimeBootDeviceAction := some
      { devices := [.pxe], efiBoot := efiBoot hardware } },
   { powerAction := some .on }]

def isoMountActions (isoURL : String) (hardware : Hardware) : List Bmc.Action :=
  [{ powerAction := some .hardOff },
   { virtualMediaAction := some { mediaURL := "", kind := .cd } },
   { virtualMediaAction := some { mediaURL := isoURL, kind := .cd } },
   { oneTimeBootDeviceAction := some
      { devices := [.cdrom], efiBoot := efiBoot hardware } },
   { powerAction := some .on }]

def setMediaURL (action : Bmc.Action)
    (media : Bmc.VirtualMediaAction) (url : String) : Bmc.Action :=
  { action with virtualMediaAction := some { media with mediaURL := url } }

def templateActions (render : String → HardwareSpec → Except String String)
    (hardware : Hardware) : List Bmc.Action → Except String (List Bmc.Action)
  | [] => .ok []
  | action :: rest =>
    match action.virtualMediaAction with
    | none =>
      match templateActions render hardware rest with
      | .error err => .error err
      | .ok rest => .ok (action :: rest)
    | some media =>
      match render media.mediaURL hardware.spec with
      | .error err =>
        .error ("failed to template VirtualMediaAction.MediaURL: " ++ err)
      | .ok templated =>
        match templateActions render hardware rest with
        | .error err => .error err
        | .ok rest =>
          .ok (setMediaURL action media templated :: rest)

def failWith (state : State) (err : String) : Outcome where
  state := state.setWorkflowState .failed
  error := some err

def failWithCondition (replies : Replies) (state : State)
    (type : WorkflowConditionType) (err : String) : Outcome :=
  failWith (state.setConditionIfDifferent
    (conditionAt replies.now type .false reasonError err)) err

/-- The shared part of the boot modes: read the Hardware, build the actions,
advance the Job, and leave PREPARING once it is complete. -/
def bootWithJob (replies : Replies) (state : State) (name : String)
    (hardwareCondition : WorkflowConditionType)
    (actionsFor : Hardware → Except String (List Bmc.Action)) : Outcome :=
  match hardwareFrom state.workflow replies.bootHardware with
  | .error err =>
    failWithCondition replies state hardwareCondition
      ("failed to get hardware: " ++ err)
  | .ok hardware =>
    match actionsFor hardware with
    | .error err =>
      failWithCondition replies state .bootJobSetupFailed
        ("failed to template actions: " ++ err)
    | .ok actions =>
      let outcome := handleJob replies state actions name
      match outcome.error with
      | some _ => { outcome with state := outcome.state.setWorkflowState .failed }
      | none =>
        if (outcome.state.status.job name).complete ∧
            outcome.state.status.state = .preparing then
          { outcome with state := outcome.state.setWorkflowState .pending }
        else outcome

def prepareBoot (replies : Replies) (state : State) : Outcome :=
  let wf := state.workflow
  match wf.spec.bootOptions.bootMode with
  | .netboot =>
    let name := jobName jobNameNetboot wf
    if jobDue state.status name then
      bootWithJob replies state name .bootJobSetupFailed
        fun hardware => .ok (netbootActions hardware)
    else { state }
  | .iso | .isoboot =>
    let name := jobName jobNameISOMount wf
    if jobDue state.status name then
      if wf.spec.bootOptions.isoURL = "" then
        failWith state "iso url must be a valid url"
      -- An unreadable Hardware is recorded under the completion condition here.
      else bootWithJob replies state name .bootJobSetupComplete
        fun hardware => .ok (isoMountActions wf.spec.bootOptions.isoURL hardware)
    else { state }
  | .customboot =>
    let name := jobName jobNameCustombootPreparing wf
    if jobDue state.status name then
      bootWithJob replies state name .bootJobSetupFailed
        fun hardware => templateActions replies.render hardware
          wf.spec.bootOptions.custombootConfig.preparingActions
    else { state }
  | _ => { state := state.setWorkflowState .pending }

def toggleIfDue (replies : Replies) (state : State) (allowPXE : Bool) :
    State × Option String :=
  if state.workflow.spec.bootOptions.toggleAllowNetboot ∧
      isToggled allowPXE state.status.bootOptions.allowNetboot = false then
    toggleHardware replies state allowPXE
  else (state, none)

def prepareWorkflow (replies : Replies) (state : State) : Outcome :=
  match toggleIfDue replies state true with
  | (state, some err) => failWith state err
  | (state, none) => prepareBoot replies state

/-- A part of preparing or post handling: it advances the workflow, takes every
Job through at most one step of its protocol, and changes the state only to
FAILED or by leaving the phase. -/
structure State.Works (handled : Option String) (leaves : State → Prop)
    (before after : State) : Prop where
  advances : before.Advances after
  steps : State.StepsJobs handled before after
  state : after.status.state = before.status.state ∨
    after.status.state = .failed ∨ leaves after

variable {leaves : State → Prop} {before after : State}

theorem State.Works.after_spares {handled : Option String} {first second third : State}
    (advances : first.Advances second) (spares : first.SparesJobs second)
    (sameState : second.status.state = first.status.state)
    (works : State.Works handled leaves second third) :
    State.Works handled leaves first third where
  advances := advances.trans works.advances
  steps := spares.trans_stepsJobs works.steps
  state := by rw [← sameState]; exact works.state

theorem State.Works.mono {handled : Option String} {exits : State → Prop}
    (works : State.Works handled leaves before after) (implied : leaves after → exits after) :
    State.Works handled exits before after :=
  ⟨works.advances, works.steps, works.state.imp_right fun left => left.imp_right implied⟩

variable (replies : Replies) (handled : Option String) (state : State)

theorem works_failWith (leaves : State → Prop) (state : State) (err : String) :
    State.Works handled leaves state (failWith state err).state where
  advances := State.Advances.setWorkflowState state .failed
  steps := ((State.SparesJobs.refl state).setWorkflowState .failed).stepsJobs handled
  state := Or.inr (Or.inl rfl)

theorem state_setConditionIfDifferent (condition : WorkflowCondition) :
    (state.setConditionIfDifferent condition).status.state = state.status.state := by
  unfold State.setConditionIfDifferent WorkflowStatus.setConditionIfDifferent
  split
  · split <;> rfl
  · rfl

theorem works_failWithCondition (leaves : State → Prop) (replies : Replies) (state : State)
    (type : WorkflowConditionType) (err : String) :
    State.Works handled leaves state
      (failWithCondition replies state type err).state :=
  State.Works.after_spares (State.Advances.setConditionIfDifferent state _)
    (State.SparesJobs.setConditionIfDifferent state _)
    (state_setConditionIfDifferent state _) (works_failWith handled leaves _ err)

theorem works_refl (leaves : State → Prop) (state : State) :
    State.Works handled leaves state state :=
  ⟨State.Advances.refl state, (State.SparesJobs.refl state).stepsJobs handled, Or.inl rfl⟩

theorem State.Handles.works {name : String} (handles : before.Handles name after)
    (workflowState : WorkflowState)
    (entered : workflowState = .failed ∨ leaves (after.setWorkflowState workflowState)) :
    State.Works (some name) leaves before (after.setWorkflowState workflowState) where
  advances := handles.advances.trans (State.Advances.setWorkflowState after workflowState)
  steps := handles.stepsJobs.setWorkflowState workflowState
  state := Or.inr entered

theorem State.Handles.works_same {name : String} (handles : before.Handles name after) :
    State.Works (some name) leaves before after :=
  ⟨handles.advances, handles.stepsJobs, Or.inl handles.state⟩

/-- The workflow became pending with the Job of a name complete. -/
def CompletedBy (name : String) (after : State) : Prop :=
  after.status.state = .pending ∧ (after.status.job name).complete = true

theorem works_bootWithJob (name : String) (hardwareCondition : WorkflowConditionType)
    (actionsFor : Hardware → Except String (List Bmc.Action)) :
    State.Works (some name) (CompletedBy name) state
      (bootWithJob replies state name hardwareCondition actionsFor).state := by
  unfold bootWithJob
  split
  · exact works_failWithCondition _ _ replies state _ _
  · split
    · exact works_failWithCondition _ _ replies state _ _
    · next actions _ =>
      have handles := handles_handleJob replies state actions name
      simp only
      split
      · exact handles.works .failed (Or.inl rfl)
      · split
        · next complete => exact handles.works .pending (Or.inr ⟨rfl, complete.1⟩)
        · exact handles.works_same

def preparingJobName (wf : Workflow) : Option String :=
  match wf.spec.bootOptions.bootMode with
  | .netboot => some (jobName jobNameNetboot wf)
  | .iso | .isoboot => some (jobName jobNameISOMount wf)
  | .customboot => some (jobName jobNameCustombootPreparing wf)
  | _ => none

theorem templateActions_ne_nil {render : String → HardwareSpec → Except String String}
    {hardware : Hardware} {actions templated : List Bmc.Action}
    (notEmpty : actions ≠ [])
    (rendered : templateActions render hardware actions = .ok templated) :
    templated ≠ [] := by
  cases actions with
  | nil => exact absurd rfl notEmpty
  | cons =>
    unfold templateActions at rendered
    split at rendered
    · split at rendered
      · cases rendered
      · cases rendered
        simp
    · split at rendered
      · cases rendered
      · split at rendered
        · cases rendered
        · cases rendered
          simp

/-- A customboot workflow with no actions to prepare with. -/
def NoPreparingActions (wf : Workflow) : Prop :=
  wf.spec.bootOptions.bootMode = .customboot ∧
    wf.spec.bootOptions.custombootConfig.preparingActions = []

inductive PreparesBoot (replies : Replies) (state : State) : Outcome → Prop
  | through {name : String} (isJob : preparingJobName state.workflow = some name)
      (notDue : jobDue state.status name = false) :
      PreparesBoot replies state { state }
  | noURL (err : String) : PreparesBoot replies state (failWith state err)
  | boots {name : String} (isJob : preparingJobName state.workflow = some name)
      (due : jobDue state.status name = true)
      (hardwareCondition : WorkflowConditionType)
      {actionsFor : Hardware → Except String (List Bmc.Action)}
      (hasActions : ∀ hardware, actionsFor hardware = .ok [] →
        NoPreparingActions state.workflow) :
      PreparesBoot replies state
        (bootWithJob replies state name hardwareCondition actionsFor)
  | noJob (isNone : preparingJobName state.workflow = none) :
      PreparesBoot replies state { state := state.setWorkflowState .pending }

theorem preparesBoot_prepareBoot : PreparesBoot replies state (prepareBoot replies state) := by
  have isoMount : preparingJobName state.workflow =
        some (jobName jobNameISOMount state.workflow) →
      PreparesBoot replies state
        (if jobDue state.status (jobName jobNameISOMount state.workflow) then
          if state.workflow.spec.bootOptions.isoURL = "" then
            failWith state "iso url must be a valid url"
          else bootWithJob replies state (jobName jobNameISOMount state.workflow)
            .bootJobSetupComplete fun hardware =>
              .ok (isoMountActions state.workflow.spec.bootOptions.isoURL hardware)
        else { state }) := by
    intro isJob
    split
    · next due =>
      split
      · exact .noURL _
      · exact .boots isJob due _ (by simp [isoMountActions])
    · next notDue => exact .through isJob (by simpa using notDue)
  unfold prepareBoot
  simp only
  split
  · next mode =>
    have isJob : preparingJobName state.workflow =
        some (jobName jobNameNetboot state.workflow) := by simp [preparingJobName, mode]
    split
    · next due => exact .boots isJob due _ (by simp [netbootActions])
    · next notDue => exact .through isJob (by simpa using notDue)
  · next mode => exact isoMount (by simp [preparingJobName, mode])
  · next mode => exact isoMount (by simp [preparingJobName, mode])
  · next mode =>
    have isJob : preparingJobName state.workflow =
        some (jobName jobNameCustombootPreparing state.workflow) := by
      simp [preparingJobName, mode]
    split
    · next due =>
      refine .boots isJob due _ fun hardware rendered => ⟨mode, ?_⟩
      by_contra notEmpty
      exact templateActions_ne_nil notEmpty rendered rfl
    · next notDue => exact .through isJob (by simpa using notDue)
  · next _ _ _ _ =>
    refine .noJob ?_
    unfold preparingJobName
    split <;> simp_all

def Prepared (before after : State) : Prop :=
  after.status.state = .pending ∧
    ∀ name, preparingJobName before.workflow = some name →
      jobDue before.status name = true ∧ (after.status.job name).complete = true

theorem works_prepareBoot :
    State.Works (preparingJobName state.workflow) (Prepared state) state
      (prepareBoot replies state).state := by
  have prepares := preparesBoot_prepareBoot replies state
  generalize prepareBoot replies state = outcome at prepares
  cases prepares with
  | through => exact works_refl _ _ state
  | noURL err => exact works_failWith _ _ state err
  | @boots name isJob due hardwareCondition actionsFor =>
    rw [isJob]
    apply (works_bootWithJob replies state name hardwareCondition actionsFor).mono
    intro completed
    refine ⟨completed.1, fun other isOther => ?_⟩
    obtain rfl : name = other := Option.some.inj (isJob.symm.trans isOther)
    exact ⟨due, completed.2⟩
  | noJob isNone =>
    refine ⟨State.Advances.setWorkflowState state .pending,
      ((State.SparesJobs.refl state).setWorkflowState .pending).stepsJobs _,
      Or.inr (Or.inr ⟨rfl, fun name isJob => ?_⟩)⟩
    rw [isNone] at isJob
    cases isJob

theorem toggleHardware_spares (allowPXE : Bool) :
    state.SparesJobs (toggleHardware replies state allowPXE).1 ∧
      (toggleHardware replies state allowPXE).1.status.state = state.status.state := by
  unfold toggleHardware
  split
  · exact ⟨State.SparesJobs.setConditionIfDifferent state _, state_setConditionIfDifferent state _⟩
  · split
    · exact ⟨State.SparesJobs.refl state, rfl⟩
    · split
      · exact ⟨State.SparesJobs.setConditionIfDifferent state _,
          state_setConditionIfDifferent state _⟩
      · next accepted _ =>
        cases accepted with
        | none => exact ⟨⟨rfl, rfl, [], (List.append_nil _).symm, fun _ => rfl⟩, rfl⟩
        | some => exact ⟨⟨rfl, rfl, [_], rfl, fun _ => rfl⟩, rfl⟩

/-- What the toggle does, when it is due. -/
structure Toggles (before after : State) (error : Option String) (allowPXE : Bool) :
    Prop where
  advances : before.Advances after
  spares : before.SparesJobs after
  sameState : after.status.state = before.status.state
  toggled : error = none → before.workflow.spec.bootOptions.toggleAllowNetboot = true →
    isToggled allowPXE after.status.bootOptions.allowNetboot = true

theorem toggles_toggleIfDue (allowPXE : Bool) :
    Toggles state (toggleIfDue replies state allowPXE).1
      (toggleIfDue replies state allowPXE).2 allowPXE := by
  unfold toggleIfDue
  split
  · have spec := toggleHardware_spec replies state allowPXE
    have spares := toggleHardware_spares replies state allowPXE
    exact ⟨spec.1, spares.1, spares.2, fun noError _ => spec.2 noError⟩
  · next notDue =>
    refine ⟨State.Advances.refl state, State.SparesJobs.refl state, rfl, ?_⟩
    intro _ wanted
    have already : ¬isToggled allowPXE state.status.bootOptions.allowNetboot = false :=
      fun notYet => notDue ⟨wanted, notYet⟩
    simpa using already

theorem works_prepareWorkflow :
    State.Works (preparingJobName state.workflow)
      (fun after => Prepared state after ∧
        (state.workflow.spec.bootOptions.toggleAllowNetboot = true →
          isToggled true after.status.bootOptions.allowNetboot = true))
      state (prepareWorkflow replies state).state := by
  have toggles := toggles_toggleIfDue replies state true
  unfold prepareWorkflow
  split
  · next toggledState err returned =>
    rw [returned] at toggles
    exact State.Works.after_spares toggles.advances toggles.spares toggles.sameState
      (works_failWith _ _ toggledState err)
  · next toggledState returned =>
    rw [returned] at toggles
    have sameName : preparingJobName toggledState.workflow = preparingJobName state.workflow := by
      rw [toggles.advances.workflow]
      rfl
    have boots := works_prepareBoot replies toggledState
    rw [sameName] at boots
    refine (State.Works.after_spares toggles.advances toggles.spares toggles.sameState
      boots).mono fun prepared => ⟨⟨prepared.1, fun name isJob => ?_⟩, fun wanted => ?_⟩
    · have completed := prepared.2 name (sameName.trans isJob)
      refine ⟨?_, completed.2⟩
      have due := completed.1
      unfold jobDue WorkflowStatus.job at due ⊢
      rw [toggles.spares.jobs] at due
      exact due
    · exact boots.advances.toggled true (toggles.toggled rfl wanted)

end Tinkerbell.Controller

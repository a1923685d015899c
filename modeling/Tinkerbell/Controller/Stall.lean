import Tinkerbell.Controller.Post

/-!
Owns: when preparing and post handling have something to show for: an error, a
requeue, or a change of the state. The one case without is a customboot workflow
that has no actions to prepare with.
-/

namespace Tinkerbell.Controller

open Api

/-- The outcome brings the workflow back to the controller. -/
def Outcome.Returns (outcome : Outcome) : Prop :=
  outcome.error ≠ none ∨ outcome.result.requeue = true

section

variable (replies : Replies) (state : State)

private theorem returns_deleteExisting (name : String) :
    (deleteExisting replies state name).Returns := by
  unfold deleteExisting
  cases tasksReply : replies.deleteTasks with
  | refused err | lost err => exact Or.inl (by simp [WriteReply.error])
  | done =>
    cases jobReply : replies.deleteJob with
    | refused err | lost err => exact Or.inl (by simp [WriteReply.error])
    | done => exact Or.inr rfl

private theorem returns_createJob
    (actions : List Bmc.Action) (name : String) :
    (createJob replies state actions name).Returns := by
  unfold createJob
  split
  · split
    · exact Or.inr rfl
    · exact Or.inr rfl
  · split
    · exact Or.inl (by simp)
    · split
      · exact Or.inl (by simp)
      · split
        · exact Or.inl (by simp)
        · exact Or.inr rfl

private theorem returns_setUpJob
    (actions : List Bmc.Action) (name : String) :
    (setUpJob replies state actions name).Returns := by
  have returns := returns_createJob replies state actions name
  unfold setUpJob
  simp only
  split
  · exact returns
  · exact returns

private theorem returns_trackJob (name : String) :
    (trackJob replies state name).Returns ∨
      ((trackJob replies state name).state.status.job name).complete = true := by
  unfold trackJob trackRunningJob
  cases read : state.cluster.getJob replies name with
  | error => exact Or.inl (Or.inl (by simp [Outcome.setCondition]))
  | ok job =>
    by_cases failed : job.hasCondition .failed .true = true
    · exact Or.inl (Or.inl (by simp [failed, Outcome.setCondition]))
    · by_cases completed : job.hasCondition .completed .true = true
      · right
        have recorded := get_updateJobStatus state name name fun entry =>
          { entry with complete := true }
        rw [if_pos rfl] at recorded
        simp only [failed, completed, Bool.false_eq_true, if_false, if_true]
        exact congrArg (fun entry : Option JobStatus => (entry.getD {}).complete) recorded
      · exact Or.inl (Or.inr (by simp [failed, completed]))

end

def HasWork (state : State) (name : String) (actions : List Bmc.Action) : Prop :=
  cleanUpDue state.status name = true ∨ (state.status.job name).uid ≠ "" ∨ actions ≠ []

variable {actions : List Bmc.Action} {name : String} {currentState : CurrentState}

theorem returns_handleJob (replies : Replies) {state : State}
    (hasWork : HasWork state name actions) :
    (handleJob replies state actions name).Returns ∨
      ((handleJob replies state actions name).state.status.job name).complete = true := by
  unfold handleJob
  split
  · exact Or.inl (returns_deleteExisting replies state name)
  · next notDue =>
    split
    · next unset =>
      split
      · next noActions =>
        rcases hasWork with due | known | actionsLeft
        · exact absurd due notDue
        · exact absurd unset known
        · exact absurd noActions actionsLeft
      · exact Or.inl (returns_setUpJob replies state actions name)
    · split
      · exact returns_trackJob replies state name
      · exact Or.inl (Or.inr rfl)

private theorem handleJob_of_no_work (replies : Replies) {state : State}
    (noWork : ¬HasWork state name actions) :
    handleJob replies state actions name = { state } := by
  simp only [HasWork, not_or, Bool.not_eq_true, not_not] at noWork
  simp [handleJob, noWork.1, noWork.2.1, noWork.2.2]

/-- The outcome returns or leaves the state it was in. -/
def Outcome.Moves (outcome : Outcome) (state : WorkflowState) : Prop :=
  outcome.Returns ∨ outcome.state.status.state ≠ state

theorem moves_failWith (state : State) (err : String) (workflowState : WorkflowState) :
    (failWith state err).Moves workflowState :=
  Or.inl (Or.inl (by simp [failWith]))

theorem moves_failWithCondition (replies : Replies) (state : State)
    (type : WorkflowConditionType) (err : String) (workflowState : WorkflowState) :
    (failWithCondition replies state type err).Moves workflowState :=
  moves_failWith _ err workflowState

private theorem moves_bootWithJob (replies : Replies) {state : State}
    (hardwareCondition : WorkflowConditionType)
    (actionsFor : Hardware → Except String (List Bmc.Action))
    (hasWork : ∀ hardware actions, replies.bootHardware = .ok hardware →
      actionsFor hardware = .ok actions → HasWork state name actions) :
    (bootWithJob replies state name hardwareCondition actionsFor).Moves .preparing := by
  unfold bootWithJob
  split
  · exact moves_failWithCondition replies state _ _ _
  · next hardware read =>
    split
    · exact moves_failWithCondition replies state _ _ _
    · next actions isActions =>
      have isRead : replies.bootHardware = .ok hardware := by
        unfold hardwareFrom at read
        split at read
        · cases read
          assumption
        · cases read
      have returns := returns_handleJob replies (hasWork hardware actions isRead isActions)
      simp only
      split
      · next failed => exact Or.inl (Or.inl (by simp [failed]))
      · next _ =>
        split
        · exact Or.inr (by simp [State.setWorkflowState, State.setStatus, State.status])
        · next notDone =>
          rcases returns with returns | complete
          · exact Or.inl returns
          · exact Or.inr fun preparing => notDone ⟨complete, preparing⟩

structure NothingToRun (replies : Replies) (wf : Workflow) : Prop where
  noActions : NoPreparingActions wf
  notDue : cleanUpDue wf.status (jobName jobNameCustombootPreparing wf) = false
  unset : (wf.status.job (jobName jobNameCustombootPreparing wf)).uid = ""
  readable : ∃ hardware, replies.bootHardware = .ok hardware

section Preparing

variable {replies : Replies} {state : State}
  (notComplete : ∀ name, preparingJobName state.workflow = some name →
    (state.status.job name).complete = false)
include notComplete

private theorem moves_prepareBoot (runs : ¬NothingToRun replies state.workflow) :
    (prepareBoot replies state).Moves .preparing := by
  have prepares := preparesBoot_prepareBoot replies state
  generalize prepareBoot replies state = outcome at prepares
  cases prepares with
  | through isJob notDue => simp [jobDue, notComplete _ isJob] at notDue
  | noURL err => exact moves_failWith state err _
  | @boots name isJob _ _ _ hasActions =>
    apply moves_bootWithJob
    intro hardware actions isRead isActions
    by_contra noWork
    simp only [HasWork, not_or, Bool.not_eq_true, not_not] at noWork
    obtain ⟨notDue, unset, rfl⟩ := noWork
    have noActions := hasActions hardware isActions
    obtain rfl : jobName jobNameCustombootPreparing state.workflow = name := by
      simpa [preparingJobName, noActions.1] using isJob
    exact runs ⟨noActions, notDue, unset, hardware, isRead⟩
  | noJob => exact Or.inr (by simp [State.setWorkflowState, State.setStatus, State.status])

private theorem prepareBoot_of_nothingToRun (nothing : NothingToRun replies state.workflow) :
    prepareBoot replies state = { state } := by
  obtain ⟨_, isRead⟩ := nothing.readable
  obtain ⟨mode, noActions⟩ := nothing.noActions
  have isJob : preparingJobName state.workflow =
      some (jobName jobNameCustombootPreparing state.workflow) := by
    simp [preparingJobName, mode]
  have noWork : ¬HasWork state (jobName jobNameCustombootPreparing state.workflow) [] := by
    simp only [HasWork, not_or, Bool.not_eq_true, not_not]
    exact ⟨nothing.notDue, nothing.unset, trivial⟩
  unfold prepareBoot
  simp only [mode]
  simp only [bootWithJob, hardwareFrom, isRead, noActions, templateActions,
    handleJob_of_no_work replies noWork]
  simp [notComplete _ isJob]

private theorem not_complete_of_preparing (isJob : preparingJobName state.workflow = some name)
    (preparing : (prepareBoot replies state).state.status.state = .preparing) :
    ((prepareBoot replies state).state.status.job name).complete = false := by
  have prepares := preparesBoot_prepareBoot replies state
  generalize prepareBoot replies state = outcome at prepares preparing
  cases prepares with
  | through => exact notComplete name isJob
  | noURL => cases preparing
  | @boots other isOther =>
    obtain rfl : name = other := Option.some.inj (isJob.symm.trans isOther)
    unfold bootWithJob at preparing ⊢
    split
    · next unreadable =>
      rw [unreadable] at preparing
      cases preparing
    · next _ read =>
      rw [read] at preparing
      split
      · next failed =>
        simp only [failed] at preparing
        cases preparing
      · next _ isActions =>
        simp only [isActions] at preparing ⊢
        split
        · next failed =>
          simp only [failed] at preparing
          cases preparing
        · next noError =>
          simp only [noError] at preparing
          split
          · next done =>
            rw [if_pos done] at preparing
            cases preparing
          · next notDone =>
            rw [if_neg notDone] at preparing
            rw [← Bool.not_eq_true]
            exact fun complete => notDone ⟨complete, preparing⟩
  | noJob isNone =>
    rw [isNone] at isJob
    cases isJob

end Preparing

variable {outcome : Outcome} {allowPXE : Bool}

theorem moves_adoptCurrentState {state : State}
    (isAdopted : outcome.state = adoptCurrentState state)
    (isCurrent : state.status.currentState = some currentState)
    (succeeded : currentState.state = .success) : outcome.Moves .post := by
  right
  rw [isAdopted, adoptCurrentState, isCurrent]
  simp [State.setWorkflowState, State.setStatus, State.status, succeeded]

private theorem moves_finishWithJob (replies : Replies) {state : State} {noActions : Bool}
    (isCurrent : state.status.currentState = some currentState)
    (succeeded : currentState.state = .success)
    (hasWork : noActions = true ∨ HasWork state name actions) :
    (finishWithJob replies state name actions noActions).Moves .post := by
  have handles := handles_handleJob replies state actions name
  have sameCurrent : (handleJob replies state actions name).state.status.currentState =
      some currentState := by
    rw [handles.advances.currentState]
    exact isCurrent
  unfold finishWithJob
  simp only
  split
  · next failed => exact Or.inl (Or.inl (by simp [failed]))
  · split
    · exact moves_adoptCurrentState rfl sameCurrent succeeded
    · next notDone =>
      rw [not_or] at notDone
      rcases hasWork with isEmpty | work
      · exact absurd isEmpty notDone.2
      · rcases returns_handleJob replies work with returns | complete
        · exact Or.inl returns
        · exact absurd complete notDone.1

private theorem moves_postBoot (replies : Replies) {state : State}
    (isCurrent : state.status.currentState = some currentState)
    (succeeded : currentState.state = .success) :
    (postBoot replies state).Moves .post := by
  have posts := postsBoot_postBoot replies state
  generalize postBoot replies state = outcome at posts
  cases posts with
  | adopts => exact moves_adoptCurrentState rfl isCurrent succeeded
  | fails err => exact moves_failWith state err _
  | @finishes _ _ actions _ hasActions =>
    apply moves_finishWithJob replies isCurrent succeeded
    by_cases isEmpty : actions = []
    · exact Or.inl (hasActions isEmpty)
    · exact Or.inr (Or.inr (Or.inr isEmpty))

def Outcome.Progresses (outcome : Outcome) (before : WorkflowStatus) : Prop :=
  outcome.Returns ∨ outcome.state.status.state ≠ before.state ∨
    outcome.state.status.bootOptions.allowNetboot ≠ before.bootOptions.allowNetboot

def ToggleDue (wf : Workflow) (allowPXE : Bool) : Prop :=
  wf.spec.bootOptions.toggleAllowNetboot = true ∧
    isToggled allowPXE wf.status.bootOptions.allowNetboot = false

theorem toggleIfDue_of_not_due (replies : Replies) {state : State}
    (notDue : ¬ToggleDue state.workflow allowPXE) :
    toggleIfDue replies state allowPXE = (state, none) := by
  exact if_neg notDue

theorem progresses_of_toggleDue {state toggled : State} {handled : Option String}
    {leaves : State → Prop} (due : ToggleDue state.workflow allowPXE)
    (toggles : Toggles state toggled none allowPXE)
    (works : State.Works handled leaves toggled outcome.state) :
    outcome.Progresses state.status := by
  right
  right
  intro same
  have recorded := works.advances.toggled allowPXE (toggles.toggled rfl due.1)
  rw [same] at recorded
  have notYet : isToggled allowPXE state.status.bootOptions.allowNetboot = false := due.2
  rw [notYet] at recorded
  cases recorded

theorem progresses_prepareWorkflow {replies : Replies} {state : State}
    (preparing : state.status.state = .preparing)
    (notComplete : ∀ name, preparingJobName state.workflow = some name →
      (state.status.job name).complete = false)
    (runs : ToggleDue state.workflow true ∨ ¬NothingToRun replies state.workflow) :
    (prepareWorkflow replies state).Progresses state.status := by
  by_cases due : ToggleDue state.workflow true
  · have toggles := toggles_toggleIfDue replies state true
    unfold prepareWorkflow
    split
    · exact Or.inl (Or.inl (by simp [failWith]))
    · next toggled returned =>
      rw [returned] at toggles
      exact progresses_of_toggleDue due toggles (works_prepareBoot replies toggled)
  · unfold prepareWorkflow
    rw [toggleIfDue_of_not_due replies due]
    rcases moves_prepareBoot notComplete (runs.resolve_left due) with returns | moved
    · exact Or.inl returns
    · rw [← preparing] at moved
      exact Or.inr (Or.inl moved)

theorem prepareWorkflow_of_nothingToRun {replies : Replies} {state : State}
    (notComplete : ∀ name, preparingJobName state.workflow = some name →
      (state.status.job name).complete = false)
    (notDue : ¬ToggleDue state.workflow true)
    (nothing : NothingToRun replies state.workflow) :
    prepareWorkflow replies state = { state } := by
  unfold prepareWorkflow
  rw [toggleIfDue_of_not_due replies notDue]
  exact prepareBoot_of_nothingToRun notComplete nothing

theorem progresses_postActions {replies : Replies} {state : State}
    (isPost : state.status.state = .post)
    (isCurrent : state.status.currentState = some currentState)
    (succeeded : currentState.state = .success) :
    (postActions replies state).Progresses state.status := by
  by_cases due : ToggleDue state.workflow false
  · have toggles := toggles_toggleIfDue replies state false
    unfold postActions
    split
    · exact Or.inl (Or.inl (by simp [failWith]))
    · next toggled returned =>
      rw [returned] at toggles
      exact progresses_of_toggleDue due toggles (works_postBoot replies toggled)
  · unfold postActions
    rw [toggleIfDue_of_not_due replies due]
    rcases moves_postBoot replies isCurrent succeeded with returns | moved
    · exact Or.inl returns
    · rw [← isPost] at moved
      exact Or.inr (Or.inl moved)

theorem not_complete_prepareWorkflow {replies : Replies} {state : State}
    (isJob : preparingJobName state.workflow = some name)
    (notComplete : (state.status.job name).complete = false)
    (preparing : (prepareWorkflow replies state).state.status.state = .preparing) :
    ((prepareWorkflow replies state).state.status.job name).complete = false := by
  have toggles := toggles_toggleIfDue replies state true
  unfold prepareWorkflow at preparing ⊢
  generalize toggleIfDue replies state true = result at toggles preparing ⊢
  obtain ⟨toggled, error⟩ := result
  cases error with
  | some => cases preparing
  | none =>
    have sameName : preparingJobName toggled.workflow = some name := by
      rw [toggles.advances.workflow]
      exact isJob
    have sameJobs : (toggled.status.job name).complete = false := by
      rw [WorkflowStatus.job, toggles.spares.jobs]
      exact notComplete
    refine not_complete_of_preparing ?_ sameName preparing
    intro other isOther
    obtain rfl : name = other := Option.some.inj (sameName.symm.trans isOther)
    exact sameJobs

end Tinkerbell.Controller

import Tinkerbell.Controller.Client

/-!
Owns: what the controller does with a workflow in state RUNNING: declare the
global timeout, hand the workflow over to the agent of the next task, and set
the deadline once the first action has started.
-/

namespace Tinkerbell.Controller

open Api

def firstAction (status : WorkflowStatus) : Option Action :=
  match status.tasks with
  | [] => none
  | task :: _ => task.actions.head?

def currentAndNext (taskID : String) : List Task → Option (Task × Option Task)
  | [] => none
  | task :: rest =>
    if task.id = taskID then some (task, rest.head?)
    else currentAndNext taskID rest

def taskComplete (task : Task) : Bool :=
  task.actions.all fun action => action.state = .success

def startsPending (task : Task) : Bool :=
  match task.actions with
  | [] => false
  | first :: _ => first.state = .pending

def updateAgentIDIfNeeded (status : WorkflowStatus) : WorkflowStatus :=
  match status.currentState with
  | none => status
  | some currentState =>
    match currentAndNext currentState.taskID status.tasks with
    | some (current, some next) =>
      if taskComplete current ∧ startsPending next ∧
          status.agentID ≠ next.agentID then
        { status with agentID := next.agentID }
      else status
    | _ => status

def deadlinePassed (now : Time) (status : WorkflowStatus) : Bool :=
  match status.globalExecutionStop with
  | some stop => stop < now
  | none => false

def deadlineFrom (now start : Time) (globalTimeout : Int) : Time :=
  let skew := if start < now then ((timeSub now start).natAbs : Duration) else 0
  now + seconds globalTimeout + skew

def armingAction (status : WorkflowStatus) : Option Action :=
  match status.globalExecutionStop, firstAction status, status.currentState with
  | none, some first, some currentState =>
    if first.id = currentState.actionID then some first else none
  | _, _, _ => none

/-- The RUNNING case of `Reconcile`: the status to patch and the result. While
the first action has no start time nothing is patched. -/
def reconcileRunning (now : Time) (status : WorkflowStatus) :
    WorkflowStatus × Result :=
  if deadlinePassed now status then ({ status with state := .timeout }, {})
  else
    let updated := updateAgentIDIfNeeded status
    match armingAction updated with
    | none => (updated, {})
    | some first =>
      match first.executionStart with
      | none => (status, {})
      | some start =>
        let stop := deadlineFrom now start updated.globalTimeout
        ({ updated with globalExecutionStop := some (truncateSecond stop) },
          { requeueAfter := some (timeSub stop now) })

theorem updateAgentIDIfNeeded_eq (status : WorkflowStatus) :
    updateAgentIDIfNeeded status = { status with
      agentID := (updateAgentIDIfNeeded status).agentID } := by
  unfold updateAgentIDIfNeeded
  split
  · rfl
  · split
    · split <;> rfl
    · rfl

inductive ReconcilesRunning (now : Time) (status : WorkflowStatus) :
    WorkflowStatus → Prop
  | timedOut (passed : deadlinePassed now status = true) :
      ReconcilesRunning now status { status with state := .timeout }
  | heldBack {first : Action} (notPassed : deadlinePassed now status = false)
      (arming : armingAction (updateAgentIDIfNeeded status) = some first)
      (notStarted : first.executionStart = none) :
      ReconcilesRunning now status status
  | armed {first : Action} {start : Time}
      (notPassed : deadlinePassed now status = false)
      (arming : armingAction (updateAgentIDIfNeeded status) = some first)
      (started : first.executionStart = some start) :
      ReconcilesRunning now status { updateAgentIDIfNeeded status with
        globalExecutionStop := some (truncateSecond
          (deadlineFrom now start (updateAgentIDIfNeeded status).globalTimeout)) }
  | handedOver (notPassed : deadlinePassed now status = false)
      (notArming : armingAction (updateAgentIDIfNeeded status) = none) :
      ReconcilesRunning now status (updateAgentIDIfNeeded status)

theorem reconcilesRunning_reconcileRunning (now : Time) (status : WorkflowStatus) :
    ReconcilesRunning now status (reconcileRunning now status).1 := by
  unfold reconcileRunning
  split
  · next passed => exact .timedOut passed
  · next notPassed =>
    rw [Bool.not_eq_true] at notPassed
    simp only
    split
    · next notArming => exact .handedOver notPassed notArming
    · next _ arming =>
      split
      · next notStarted => exact .heldBack notPassed arming notStarted
      · next _ started => exact .armed notPassed arming started

variable {now : Time} {status updated : WorkflowStatus}

theorem ReconcilesRunning.fields (reconciles : ReconcilesRunning now status updated) :
    updated = { status with
      agentID := updated.agentID
      state := updated.state
      globalExecutionStop := updated.globalExecutionStop } := by
  cases reconciles with
  | timedOut | heldBack => rfl
  | armed | handedOver => rw [updateAgentIDIfNeeded_eq]

theorem ReconcilesRunning.state (reconciles : ReconcilesRunning now status updated) :
    updated.state = status.state ∨
      updated.state = .timeout ∧ deadlinePassed now status = true := by
  cases reconciles with
  | timedOut passed => exact Or.inr ⟨rfl, passed⟩
  | heldBack => exact Or.inl rfl
  | armed | handedOver =>
    rw [updateAgentIDIfNeeded_eq]
    exact Or.inl rfl

end Tinkerbell.Controller

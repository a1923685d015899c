import Mathlib.Data.List.Sort
import Tinkerbell.Api.Workflow

/-!
Owns: one attempt of the `GetAction` handler: which workflow, which task and
which action are served, the current state it writes, and the response.

`doGetAction` takes the workflows the backend lists for the agent and returns
the workflow to write back together with the response.
-/

namespace Tinkerbell.Server

open Api

inductive Code where
  | invalidArgument
  | notFound
  | failedPrecondition
  | internal
  | unavailable
deriving DecidableEq

structure GrpcError where
  code : Code
  message : String
deriving DecidableEq

structure Namespaces where
  (network pid : String)
deriving DecidableEq

structure ActionResponse where
  (workflowId taskId agentId actionId name image : String)
  timeout : Int
  (command volumes environment : List String)
  pid : String
  namespaces : Option Namespaces
deriving DecidableEq

def isFirstAction (task : Task) : Bool :=
  match task.actions with
  | [] => false
  | first :: _ => first.state = .pending

def isTaskSuccessful (task : Task) : Bool :=
  match task.actions.getLast? with
  | none => true
  | some last => last.state = .success

/-- The loop over the listed workflows: those without tasks are passed over,
the first other one is used or ends the call. -/
def selectWorkflow : List Workflow → Except GrpcError Workflow
  | [] => .error ⟨.notFound, "no Tasks found in Workflow"⟩
  | wf :: rest =>
    if wf.status.tasks = [] then selectWorkflow rest
    else if wf.spec.bootOptions.bootMode ≠ .unset ∧
        wf.status.state = .preparing then
      .error ⟨.failedPrecondition, "Workflow is in preparing state"⟩
    else if wf.status.state ≠ .pending ∧ wf.status.state ≠ .running then
      .error ⟨.failedPrecondition, "Workflow not in pending or running state"⟩
    else .ok wf

/-- The first task while it is at its first action, else the first task that
is not yet successful. -/
def selectTask : List Task → Except GrpcError Task
  | [] => .error ⟨.notFound, "no Tasks found"⟩
  | first :: rest =>
    if isFirstAction first then .ok first
    else
      match (first :: rest).find? (fun task => !isTaskSuccessful task) with
      | some task => .ok task
      | none => .error ⟨.notFound, "no Tasks found"⟩

def nextAction (actionID : String) : List Action → Except GrpcError Action
  | [] => .error ⟨.notFound, "no Action found"⟩
  | action :: rest =>
    if action.id = actionID then
      match rest with
      | [] => .error ⟨.notFound, "last Action in task"⟩
      | next :: _ => .ok next
    else nextAction actionID rest

/-- The branches of `resolveAction` for a task past its first action: an
action in progress is served again, after a success the next one is served. -/
def resolveStarted (actions : List Action) :
    Option CurrentState → Except GrpcError Action
  | none => .error ⟨.failedPrecondition, "no current state available"⟩
  | some currentState =>
    if currentState.state = .running ∨ currentState.state = .pending then
      match actions.find? (fun action => action.id = currentState.actionID) with
      | some action => .ok action
      | none => .error ⟨.notFound, "in-progress Action not found in task"⟩
    else if currentState.state ≠ .success then
      .error ⟨.failedPrecondition, "current Action not in success state"⟩
    else nextAction currentState.actionID actions

def resolveAction (task : Task) (currentState : Option CurrentState) :
    Except GrpcError Action :=
  match isFirstAction task, task.actions with
  | true, first :: _ => .ok first
  | _, actions => resolveStarted actions currentState

def joinEnvironment (task action : KeyedMap String String) : List String :=
  let joined := (KeyedMap.empty.copy task).copy action
  (joined.entries.map fun entry => entry.1 ++ "=" ++ entry.2).insertionSort (· ≤ ·)

def actionResponse (agentID : String) (wf : Workflow) (task : Task)
    (action : Action) : ActionResponse where
  workflowId := wf.namespace ++ "/" ++ wf.name
  taskId := task.id
  agentId := agentID
  actionId := action.id
  name := action.name
  image := action.image
  timeout := action.timeout
  command := action.command
  volumes := task.volumes ++ action.volumes
  environment := joinEnvironment task.environment action.environment
  pid :=
    match action.namespaces with
    | some namespaces => if namespaces.pid ≠ "" then namespaces.pid else action.pid
    | none => action.pid
  namespaces := action.namespaces.map fun namespaces =>
    ⟨namespaces.network, namespaces.pid⟩

def servedState (agentID : String) (task : Task) (action : Action) :
    CurrentState where
  agentID
  taskID := task.id
  actionID := action.id
  state := action.state
  actionName := action.name
  taskName := task.name

def doGetAction (agentID : String) (wfs : List Workflow) :
    Except GrpcError (Workflow × ActionResponse) :=
  if agentID = "" then .error ⟨.invalidArgument, "invalid Agent ID"⟩
  else if wfs = [] then .error ⟨.notFound, "no Workflows found"⟩
  else do
    let wf ← selectWorkflow wfs
    let task ← selectTask wf.status.tasks
    if task.actions = [] then .error ⟨.notFound, "no Actions found"⟩
    else do
      let action ← resolveAction task wf.status.currentState
      -- The agent is compared only after the action is resolved, so that
      -- workflows with tasks for several agents can be handled.
      if task.agentID ≠ agentID then
        .error ⟨.notFound, "Task not assigned to Agent"⟩
      else
        .ok ({ wf with status := { wf.status with
            currentState := some (servedState agentID task action) } },
          actionResponse agentID wf task action)

/-- Everything a successful attempt went through. -/
structure Serves (agentID : String) (wf : Workflow) (task : Task)
    (action : Action) : Prop where
  agent : agentID ≠ ""
  active : wf.status.state = .pending ∨ wf.status.state = .running
  taskSelected : selectTask wf.status.tasks = .ok task
  actionResolved : resolveAction task wf.status.currentState = .ok action
  assigned : task.agentID = agentID

variable {wfs : List Workflow}

theorem selectWorkflow_eq_ok {wf : Workflow} (selected : selectWorkflow wfs = .ok wf) :
    wf ∈ wfs ∧ (wf.status.state = .pending ∨ wf.status.state = .running) := by
  induction wfs with
  | nil => cases selected
  | cons head _ ih =>
    unfold selectWorkflow at selected
    split at selected
    · have later := ih selected
      exact ⟨List.mem_cons_of_mem head later.1, later.2⟩
    · split at selected
      · cases selected
      · split at selected
        · cases selected
        · next active =>
          cases selected
          refine ⟨by simp, ?_⟩
          by_cases pending : wf.status.state = .pending
          · exact Or.inl pending
          · exact Or.inr (by simpa [pending] using active)

private theorem exists_of_bind_eq_ok {α β : Type}
    {first : Except GrpcError α} {next : α → Except GrpcError β} {result : β}
    (succeeded : (first >>= next) = .ok result) :
    ∃ value, first = .ok value ∧ next value = .ok result := by
  cases first with
  | error => cases succeeded
  | ok value => exact ⟨value, rfl, succeeded⟩

theorem doGetAction_eq_ok {agentID : String} {written : Workflow} {response : ActionResponse}
    (served : doGetAction agentID wfs = .ok (written, response)) :
    ∃ wf ∈ wfs, ∃ task action, Serves agentID wf task action ∧
      written = { wf with status := { wf.status with
        currentState := some (servedState agentID task action) } } ∧
      response = actionResponse agentID wf task action := by
  unfold doGetAction at served
  split at served
  · cases served
  · next agent =>
    split at served
    · cases served
    · obtain ⟨wf, selected, served⟩ := exists_of_bind_eq_ok served
      obtain ⟨task, found, served⟩ := exists_of_bind_eq_ok served
      have chosen := selectWorkflow_eq_ok selected
      split at served
      · cases served
      · obtain ⟨action, resolved, served⟩ := exists_of_bind_eq_ok served
        split at served
        · cases served
        · next assigned =>
          cases served
          refine ⟨wf, chosen.1, task, action, ⟨agent, chosen.2, found, resolved, ?_⟩, rfl, rfl⟩
          exact not_not.mp assigned

end Tinkerbell.Server

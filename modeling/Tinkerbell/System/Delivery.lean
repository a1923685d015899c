import Tinkerbell.Agent.Transport
import Tinkerbell.System.Requests

/-!
Owns: what reaches an agent over whole runs. Whatever was reported and
reconciled in between, the stored tasks are those of the template but for the
progress of their actions, and every action an agent is served is decoded to
the one the template describes.
-/

namespace Tinkerbell.System

open Api Server Controller TransitionSystem
open Template (IdSource yamlToStatus convertTask convertAction)
open Tinkerbell.Agent (unreported unreportedTask doRead Delivered PlainKeys deliveredAction)

def work (tasks : List Task) : List Task := tasks.map unreportedTask

variable {tasks : List Task} {action : Action}

theorem work_replace {place : Place} (inTasks : place.In tasks)
    (same : unreported action = unreported place.action) :
    work (place.replace action) = work tasks := by
  rw [inTasks.tasks_eq]
  simp [work, Place.replace, unreportedTask, inTasks.actions_eq, same]

/-- The response is the one for an action of the definition. -/
def FromDefinition (ids : IdSource) (definition : Template.Workflow) (agentID : String)
    (response : ActionResponse) : Prop :=
  ∃ taskIndex actionIndex task action wf, definition.tasks[taskIndex]? = some task ∧
    task.actions[actionIndex]? = some action ∧
    response = actionResponse agentID wf (convertTask ids taskIndex task)
      (convertAction ids taskIndex actionIndex action)

theorem fromDefinition_of_work {ids : IdSource} {definition : Template.Workflow}
    (same : work tasks = work (yamlToStatus ids definition).tasks) {task : Task}
    (isTask : task ∈ tasks) (isAction : action ∈ task.actions) (agentID : String) (wf : Workflow) :
    FromDefinition ids definition agentID (actionResponse agentID wf task action) := by
  have inWork : unreportedTask task ∈ work (yamlToStatus ids definition).tasks := by
    rw [← same]
    exact List.mem_map_of_mem isTask
  obtain ⟨_, isConverted, sameTask⟩ := List.mem_map.mp inWork
  obtain ⟨taskIndex, taskBound, rfl⟩ := List.mem_mapIdx.mp isConverted
  have inActions : unreported action ∈ (unreportedTask task).actions :=
    List.mem_map_of_mem isAction
  rw [← sameTask] at inActions
  obtain ⟨_, isConvertedAction, sameAction⟩ := List.mem_map.mp inActions
  obtain ⟨actionIndex, actionBound, rfl⟩ := List.mem_mapIdx.mp isConvertedAction
  refine ⟨taskIndex, actionIndex, _, _, wf, List.getElem?_eq_getElem taskBound,
    List.getElem?_eq_getElem actionBound, ?_⟩
  rw [← Agent.actionResponse_unreported agentID wf task action, ← sameTask, ← sameAction,
    Agent.actionResponse_unreported]

structure Supplies (wf : Workflow) (ids : IdSource) (definition : Template.Workflow)
    (world : World) : Prop where
  lifecycle : Lifecycle wf world
  started : ¬Early world.status.state
  work_eq : work world.status.tasks = work (yamlToStatus ids definition).tasks
  held : ∀ agentID holding, (world.agents agentID).holding = some holding →
    FromDefinition ids definition agentID holding.response

theorem supplies_start (wf : Workflow) (ids : IdSource) (definition : Template.Workflow)
    (cluster : Cluster) :
    Supplies (readyWorkflow wf ids definition) ids definition
      (World.start (readyWorkflow wf ids definition) cluster) where
  lifecycle := lifecycle_start ⟨Or.inr rfl, rfl, by simp [readyWorkflow]⟩ cluster
  started := by simp [Early, World.start, readyWorkflow]
  work_eq := rfl
  held := by
    intro agentID holding held
    cases held

section Steps

variable {wf : Workflow} {ids : IdSource} {definition : Template.Workflow} {world : World}

theorem Supplies.accepted (supplies : Supplies wf ids definition world) {agentID : String}
    {request : Request} {written : Workflow} {left : Option Holding}
    (attempts : Attempts agentID (world.agents agentID).holding world.stored.value request
      written left) :
    work written.status.tasks = work (yamlToStatus ids definition).tasks ∧
      ∀ holding, left = some holding →
        FromDefinition ids definition agentID holding.response := by
  cases attempts with
  | served _ serves =>
    refine ⟨supplies.work_eq, ?_⟩
    intro holding isLeft
    cases isLeft
    exact fromDefinition_of_work supplies.work_eq (mem_of_selectTask serves.taskSelected)
      (mem_of_resolveAction serves.actionResolved) agentID _
  | @reported _ _ located =>
    refine ⟨?_, ?_⟩
    · rw [← supplies.work_eq]
      exact work_replace (inTasks_of_locate located).1 rfl
    · intro holding isLeft
      unfold afterReport at isLeft
      split at isLeft
      · obtain ⟨before, held, rfl⟩ := Option.map_eq_some_iff.mp isLeft
        exact supplies.held agentID before held
      · cases isLeft

theorem inductive_supplies :
    Inductive (fun _ _ => True) (Supplies wf ids definition) where
  prepare world label agentID agent supplies _ prepares := by
    refine ⟨(inductive_lifecycle wf).prepare world label agentID agent supplies.lifecycle trivial
      prepares, supplies.started, supplies.work_eq, ?_⟩
    intro other holding held
    rw [agents_setAgent] at held
    split at held
    · next same =>
      subst same
      cases prepares with
      | ask => cases held
      | report _ was =>
        cases held
        exact supplies.held _ holding was
      | setRead => exact supplies.held _ holding held
    · exact supplies.held other holding held
  accept world agentID call written holding supplies _ inFlight attempted := by
    have attempts := attempts_of_ok attempted
    obtain ⟨work_eq, leaves⟩ := supplies.accepted attempts
    refine ⟨supplies.lifecycle.accept inFlight attempts, ?_, ?_, ?_⟩
    · rw [World.status, stored_accept, Versioned.put_value]
      exact attempts.not_early supplies.started
    · rw [World.status, stored_accept, Versioned.put_value]
      exact work_eq
    · intro other held isHeld
      rw [agents_accept] at isHeld
      split at isHeld
      · next same =>
        subst same
        exact leaves held isHeld
      · exact supplies.held other held isHeld
  beginReconcile world replies supplies met :=
    { supplies with
      lifecycle := (inductive_lifecycle wf).beginReconcile world replies supplies.lifecycle met }
  patch world reply reconciled supplies met pending := by
    obtain ⟨started, _, tasks, _⟩ :=
      supplies.lifecycle.patched_started supplies.started pending reply
    refine ⟨supplies.lifecycle.patch pending reply, started, ?_, supplies.held⟩
    rw [tasks]
    exact supplies.work_eq
  job world event supplies met :=
    { supplies with
      lifecycle := (inductive_lifecycle wf).job world event supplies.lifecycle met }

end Steps

/-- What the template says is what the runtime gets: for every task and action of a
definition, and for every action that any agent is served in any run. -/
theorem template_delivered (wf : Workflow) (ids : IdSource) (definition : Template.Workflow)
    (cluster : Cluster) (labels : List Label) :
    (∀ taskIndex actionIndex task action, definition.tasks[taskIndex]? = some task →
      task.actions[actionIndex]? = some action →
      PlainKeys task.environment → PlainKeys action.environment → ∀ agentID stored,
        ∃ delivered, doRead (.ok (actionResponse agentID stored (convertTask ids taskIndex task)
          (convertAction ids taskIndex actionIndex action))) = .ok delivered ∧
        Delivered task action delivered) ∧
    ∀ agentID holding, ((run step (World.start (readyWorkflow wf ids definition) cluster)
        labels).agents agentID).holding = some holding →
      ∃ taskIndex actionIndex task action, definition.tasks[taskIndex]? = some task ∧
        task.actions[actionIndex]? = some action ∧
        holding.response.taskId = ids.task taskIndex ∧
        holding.response.actionId = ids.action taskIndex actionIndex ∧
        (PlainKeys task.environment → PlainKeys action.environment →
          ∃ delivered, doRead (.ok holding.response) = .ok delivered ∧
            Delivered task action delivered) := by
  refine ⟨?_, ?_⟩
  · intro taskIndex actionIndex task action _ _ plainTask plainAction agentID stored
    exact ⟨_, rfl, Agent.delivered_deliveredAction ids taskIndex actionIndex task action agentID
      stored plainTask plainAction⟩
  · intro agentID holding held
    have supplies := inductive_supplies.run_start (supplies_start wf ids definition cluster)
      labels
    obtain ⟨taskIndex, actionIndex, task, action, stored, isTask, isAction, isResponse⟩ :=
      supplies.held agentID holding held
    refine ⟨taskIndex, actionIndex, task, action, isTask, isAction, ?_, ?_, ?_⟩
    · rw [isResponse]
      rfl
    · rw [isResponse]
      rfl
    · intro plainTask plainAction
      rw [isResponse]
      exact ⟨_, rfl, Agent.delivered_deliveredAction ids taskIndex actionIndex task action
        agentID stored plainTask plainAction⟩

def overriding : Template.Workflow where
  name := "overriding"
  tasks :=
    [{ name := "first"
       workerAddr := "agent-a"
       volumes := ["/dev:/dev"]
       environment := ⟨[("DEST", "/dev/sda"), ("ARGS", "none")], by decide⟩
       actions :=
        [{ name := "write"
           image := "writer"
           timeout := 60
           command := ["write", "-v"]
           volumes := ["/tmp:/tmp"]
           environment := ⟨[("ARGS", "mode=fast")], by decide⟩
           pid := "host"
           namespaces := { network := "host" } }] }]

/-- The action of `overriding` is served, and decoded as the template describes it. -/
theorem template_delivered_overriding :
    (∃ holding, ((run step (World.start (readyWorkflow sampleWorkflow listedIds overriding)
        emptyCluster) [.ask "agent-a", .read "agent-a", .write "agent-a"]).agents
          "agent-a").holding = some holding ∧ holding.response.actionId = "action-0-0") ∧
    ∀ task ∈ overriding.tasks, ∀ action ∈ task.actions, ∀ agentID stored,
      ∃ delivered, doRead (.ok (actionResponse agentID stored (convertTask listedIds 0 task)
        (convertAction listedIds 0 0 action))) = .ok delivered ∧
      Delivered task action delivered := by
  have described := (template_delivered sampleWorkflow listedIds overriding emptyCluster []).1
  refine ⟨⟨_, rfl, rfl⟩, ?_⟩
  intro task isTask action isAction
  obtain rfl := List.mem_singleton.mp isTask
  obtain rfl := List.mem_singleton.mp isAction
  exact described 0 0 _ _ rfl rfl (by decide) (by decide)

end Tinkerbell.System

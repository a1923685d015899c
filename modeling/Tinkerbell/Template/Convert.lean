import Tinkerbell.Api.Workflow
import Tinkerbell.Template.Validator

/-!
Owns: the conversion of an accepted workflow definition to the initial status,
and what every converted status has in common: all actions pending, none
started, the task and action layout of the definition.

The source draws a fresh ULID for every action and every task. `IdSource`
holds the identifiers drawn, by position; results that need them distinct say
so with `DistinctIDs`.
-/

namespace Tinkerbell.Template

open Api

structure IdSource where
  task : Nat → String
  action : Nat → Nat → String

def convertAction (ids : IdSource) (taskIndex actionIndex : Nat)
    (action : Action) : Api.Action where
  id := ids.action taskIndex actionIndex
  name := action.name
  image := action.image
  timeout := action.timeout
  command := action.command
  volumes := action.volumes
  state := .pending
  environment := action.environment
  pid := action.pid
  namespaces :=
    if action.namespaces.network ≠ "" ∨ action.namespaces.pid ≠ "" then
      some ⟨action.namespaces.network, action.namespaces.pid⟩
    else none

def convertTask (ids : IdSource) (taskIndex : Nat) (task : Task) : Api.Task where
  name := task.name
  agentID := task.workerAddr
  id := ids.task taskIndex
  volumes := task.volumes
  environment := task.environment
  actions := task.actions.mapIdx (convertAction ids taskIndex)

def firstAgentID (tasks : List Task) : String :=
  tasks.foldl
    (fun agentID task => if agentID = "" then task.workerAddr else agentID) ""

def yamlToStatus (ids : IdSource) (wf : Workflow) : WorkflowStatus where
  globalTimeout := wf.globalTimeout
  tasks := wf.tasks.mapIdx (convertTask ids)
  agentID := firstAgentID wf.tasks

def DistinctIDs (tasks : List Api.Task) : Prop :=
  (tasks.map Api.Task.id).Nodup ∧ ((flatActions tasks).map Api.Action.id).Nodup

instance (tasks : List Api.Task) : Decidable (DistinctIDs tasks) := by
  unfold DistinctIDs
  infer_instance

theorem mem_flatActions_yamlToStatus {ids : IdSource} {wf : Workflow}
    {action : Api.Action}
    (member : action ∈ flatActions (yamlToStatus ids wf).tasks) :
    action.state = .pending ∧ action.executionStart = none := by
  simp only [flatActions, yamlToStatus, List.mem_flatMap, List.mem_mapIdx] at member
  obtain ⟨_, ⟨_, _, rfl⟩, inTask⟩ := member
  simp only [convertTask, List.mem_mapIdx] at inTask
  obtain ⟨_, _, rfl⟩ := inTask
  exact ⟨rfl, rfl⟩

end Tinkerbell.Template

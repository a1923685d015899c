import Tinkerbell.System.Order

/-!
Owns: which report completes a workflow. The server recognises the last action
of the last task of the list; the action that is in fact the last one to succeed
may belong to an earlier task when tasks without actions stand at the end.
-/

namespace Tinkerbell.System

open Api Server Controller TransitionSystem
open Template (IdSource yamlToStatus DistinctIDs)

/-- The last task of the definition has something to run. -/
def LastTaskHasActions (definition : Template.Workflow) : Prop :=
  ∃ task, definition.tasks.getLast? = some task ∧ task.actions ≠ []

/-- The last task of a task list has something to run. -/
def EndsInAction (tasks : List Task) : Prop :=
  ∃ task, tasks.getLast? = some task ∧ task.actions ≠ []

theorem endsInAction_iff_of_layout {first second : List Task}
    (same : layout first = layout second) : EndsInAction first ↔ EndsInAction second := by
  have iff : ∀ tasks : List Task, EndsInAction tasks ↔
      ∃ shape, (layout tasks).getLast? = some shape ∧ shape.2.2 ≠ [] := by
    simp [EndsInAction, layout, List.getLast?_map, taskShape]
  rw [iff, iff, same]

theorem endsInAction_yamlToStatus (ids : IdSource) (definition : Template.Workflow) :
    EndsInAction (yamlToStatus ids definition).tasks ↔ LastTaskHasActions definition := by
  simp [EndsInAction, LastTaskHasActions, yamlToStatus, List.getLast?_mapIdx, Template.convertTask]

theorem isLast_iff_endsInAction {tasks : List Task} {place : Place}
    (inTasks : place.In tasks) (nothingLeft : NothingLeft place) :
    place.isLast ↔ EndsInAction tasks := by
  unfold EndsInAction
  rw [inTasks.tasks_eq]
  cases afterSplit : place.after.getLast? with
  | none =>
    rw [List.getLast?_eq_none_iff] at afterSplit
    simp [Place.isLast, afterSplit, nothingLeft.1, inTasks.actions_eq]
  | some last =>
    have member := List.mem_of_getLast? afterSplit
    have notEmpty : place.after ≠ [] := List.ne_nil_of_mem member
    simp [Place.isLast, notEmpty, List.getLast?_cons, afterSplit, nothingLeft.2 last member]

theorem eq_success_of_workflowState {state : StateType}
    (succeeded : state.workflowState = .success) : state = .success := by
  cases state <;> simp [StateType.workflowState] at succeeded
  rfl

/-- A write that turns the last unsuccessful action into a success is a report
for the place execution stood at, with nothing left after it. -/
theorem Execution.completing_write {wf : Workflow}
    {shape : List (String × String × List String)} {world : World}
    (execution : Execution wf shape world) (coherent : CoherentReads world)
    {agentID : String} {place : Place} (stands : StandsAt world.status.tasks place)
    (finished : currentPlace (step world (.write agentID)).status.tasks = none) :
    NothingLeft place ∧ ((step world (.write agentID)).status.state = .post ↔ place.isLast) := by
  have notUnchanged : (step world (.write agentID)).status.tasks ≠
      world.status.tasks := by
    intro same
    rw [same, stands.current] at finished
    cases finished
  change currentPlace (world.write agentID).status.tasks = none at finished
  change (world.write agentID).status.tasks ≠ world.status.tasks at notUnchanged
  change NothingLeft place ∧ ((world.write agentID).status.state = .post ↔ place.isLast)
  rcases world.write_cases agentID coherent with same | dropped | accepted
  · exact absurd (by rw [same]) notUnchanged
  · refine absurd ?_ notUnchanged
    rw [dropped, World.setRead]
    split <;> rfl
  · obtain ⟨call, written, _, inFlight, attempted, isAccepted⟩ := accepted
    have status : (world.write agentID).status = written.status := by
      rw [isAccepted]
      simp [World.status]
    have attempts := attempts_of_ok attempted
    generalize isRequest : call.request = request at attempts
    rw [status] at finished notUnchanged ⊢
    cases attempts with
    | served => exact absurd rfl notUnchanged
    | @reported report located isLocated =>
      obtain ⟨_, held, _, holds, isFor, _⟩ :=
        execution.reportsOn inFlight isRequest
      obtain rfl : held = place := holds.stands.unique stands
      obtain rfl : located = held := by
        have found := locate_of_isFor execution.ordered.distinct stands.inTasks isFor
        exact Option.some.inj (isLocated.symm.trans found)
      change currentPlace (located.replace (applyReport report located.action)) = none
        at finished
      have succeeded : report.actionState.workflowState = .success := by
        by_contra notSucceeded
        have current := (stands.replace (applyReport report located.action)
          notSucceeded).current
        rw [finished] at current
        cases current
      rcases stands.advance (applyReport report located.action) succeeded with
        ⟨_, nothingLeft⟩ | ⟨_, next, standsNext, _⟩
      · refine ⟨nothingLeft, ?_, ?_⟩
        · intro isPost
          exact (execution.isLast_of_post stands isPost).1
        · intro isLast
          have isSuccess := eq_success_of_workflowState succeeded
          simp [reportedStatus, reportedState, isLast, isSuccess]
      · have current := standsNext.current
        rw [finished] at current
        cases current

theorem exists_standing {status : WorkflowStatus} (ordered : Ordered status)
    {action : Action} (member : action ∈ flatActions status.tasks)
    (notSucceeded : action.state ≠ .success) :
    ∃ place, StandsAt status.tasks place := by
  cases ordered.progress with
  | finished all => exact absurd (flatActions_succeeded all action member) notSucceeded
  | @standing place stands => exact ⟨place, stands⟩

/-- A write that leaves every action succeeded sets the state to POST exactly
when the definition ends in a task with actions. -/
theorem completion_detected_iff (wf : Workflow) (ids : IdSource)
    (definition : Template.Workflow) (cluster : Cluster) (labels : List Label)
    (agentID : String) (distinct : DistinctIDs (yamlToStatus ids definition).tasks) :
    let world := run step (World.start (readyWorkflow wf ids definition) cluster) labels
    let next := step world (.write agentID)
    (∃ action ∈ flatActions world.status.tasks, action.state ≠ .success) →
    (∀ action ∈ flatActions next.status.tasks, action.state = .success) →
    (next.status.state = .post ↔ LastTaskHasActions definition) := by
  intro world next unfinished allSucceeded
  have execution := execution_run wf cluster labels distinct
  have coherent := coherentReads_run (readyWorkflow wf ids definition) cluster labels
  obtain ⟨_, member, notSucceeded⟩ := unfinished
  obtain ⟨_, stands⟩ := exists_standing execution.ordered member notSucceeded
  have finished : currentPlace next.status.tasks = none := by
    apply currentPlace_eq_none_iff.mpr
    intro task inTasks other inTask
    exact allSucceeded other (List.mem_flatMap.mpr ⟨task, inTasks, inTask⟩)
  obtain ⟨nothingLeft, postIff⟩ := execution.completing_write coherent stands finished
  have endsIff := endsInAction_iff_of_layout execution.layout_eq
  rw [postIff, isLast_iff_endsInAction stands.inTasks nothingLeft, endsIff]
  exact endsInAction_yamlToStatus ids definition

def emptyLastTask : Template.Workflow where
  name := "empty last task"
  tasks := oneTask.tasks ++ [{ name := "second", workerAddr := "agent-a", actions := [] }]

/-- A single action; the completing report is written by the last step. -/
theorem completion_detected_iff_oneTask :
    let world := run step
      (World.start (readyWorkflow sampleWorkflow listedIds oneTask) emptyCluster)
      (runAction "agent-a").dropLast
    (step world (.write "agent-a")).status.state = .post ↔
      LastTaskHasActions oneTask :=
  completion_detected_iff sampleWorkflow listedIds oneTask emptyCluster
    (runAction "agent-a").dropLast "agent-a" (by decide) (by decide) (by decide)

/-- The definition is accepted and its only action succeeds, but the task after
it has no actions: the workflow stays RUNNING. -/
theorem completion_missed :
    let world := run step
      (World.start (readyWorkflow sampleWorkflow listedIds emptyLastTask) emptyCluster)
      (runAction "agent-a").dropLast
    let next := step world (.write "agent-a")
    Template.validate (fun _ => none) emptyLastTask = none ∧
      DistinctIDs (yamlToStatus listedIds emptyLastTask).tasks ∧
      (∃ action ∈ flatActions world.status.tasks, action.state ≠ .success) ∧
      (∀ action ∈ flatActions next.status.tasks, action.state = .success) ∧
      next.status.state = .running := by
  decide

end Tinkerbell.System

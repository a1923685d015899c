import Tinkerbell.System.Order

/-!
Owns: the system with clients that send any request whatever, and when the stored
status stays well formed under them.

Here a client is only a name for a handler call. It may ask for any agent's action
and report on any action in any state, as often and in any order it likes. The
handler copies the task of a report into the current state and the state of a report
into the action and the workflow, both as they come.
-/

namespace Tinkerbell.System

open Api Server Controller TransitionSystem
open Template (IdSource yamlToStatus DistinctIDs)

inductive RequestLabel where
  | send (client : String) (request : Request)
  | read (client : String)
  | write (client : String)
  | beginReconcile (replies : Replies)
  | patch (reply : WriteReply)
  | job (event : JobEvent)

def requestStep (world : World) : RequestLabel → World
  | .send client request => world.setAgent client { call := some { request } }
  | .read client => step world (.read client)
  | .write client => step world (.write client)
  | .beginReconcile replies => step world (.beginReconcile replies)
  | .patch reply => step world (.patch reply)
  | .job event => step world (.job event)

/-- One of the seven states that the API declares. -/
def Declared : WorkflowState → Prop
  | .unset | .legacyPending | .other _ => False
  | .preparing | .pending | .running | .post | .success | .failed | .timeout => True

instance (state : WorkflowState) : Decidable (Declared state) := by
  unfold Declared
  split <;> infer_instance

/-- The task has an action with the identifier. -/
def Contains (task : Task) (actionID : String) : Prop :=
  ∃ action ∈ task.actions, action.id = actionID

instance (task : Task) (actionID : String) : Decidable (Contains task actionID) :=
  inferInstanceAs (Decidable (∃ action ∈ task.actions, action.id = actionID))

structure WellFormed (status : WorkflowStatus) : Prop where
  state : Declared status.state
  actions : ∀ task ∈ status.tasks, ∀ action ∈ task.actions, Declared action.state
  current : ∀ currentState, status.currentState = some currentState →
    (∃ task ∈ status.tasks, Contains task currentState.actionID) ∧
    ∀ task ∈ status.tasks, Contains task currentState.actionID →
      currentState.taskID = task.id ∧ currentState.agentID = task.agentID

def ProperReport (tasks : List Task) (request : ActionStatusRequest) : Prop :=
  ∀ task ∈ tasks, task.agentID = request.agentId → Contains task request.actionId →
    request.taskId = task.id ∧ Declared request.actionState.workflowState

instance (tasks : List Task) (request : ActionStatusRequest) :
    Decidable (ProperReport tasks request) :=
  inferInstanceAs (Decidable (∀ task ∈ tasks, _ → _ → _))

/-- Reports are proper, everything else may be anything. -/
def ProperRequest (world : World) : RequestLabel → Prop
  | .send _ (.report request) => ProperReport world.status.tasks request
  | _ => True

instance (world : World) (label : RequestLabel) : Decidable (ProperRequest world label) := by
  unfold ProperRequest
  split <;> infer_instance

def Refers (tasks : List Task) (currentState : CurrentState) : Prop :=
  ∃ task ∈ tasks, Contains task currentState.actionID ∧
    currentState.taskID = task.id ∧ currentState.agentID = task.agentID

/-- A well-formed status, with a declared state in its current state too: POST takes
the state of the workflow from there. -/
structure Formed (status : WorkflowStatus) : Prop where
  state : Declared status.state
  actions : ∀ task ∈ status.tasks, ∀ action ∈ task.actions, Declared action.state
  refers : ∀ currentState, status.currentState = some currentState →
    Declared currentState.state ∧ Refers status.tasks currentState

variable {task : Task} {actionID : String} {tasks others : List Task}
  {request : ActionStatusRequest} {status : WorkflowStatus} {action : Action} {wf : Workflow}
  {place : Place} {world : World}

theorem contains_iff : Contains task actionID ↔ actionID ∈ (taskShape task).2.2 := by
  simp [Contains, taskShape]

theorem exists_of_layout (same : layout tasks = layout others) (member : task ∈ tasks) :
    ∃ other ∈ others, taskShape other = taskShape task := by
  have inLayout : taskShape task ∈ layout others := by
    rw [← same]
    exact List.mem_map_of_mem member
  exact List.mem_map.mp inLayout

theorem ProperReport.of_layout (proper : ProperReport tasks request)
    (same : layout others = layout tasks) :
    ProperReport others request := by
  intro task member isAgent contains
  obtain ⟨other, isOther, sameShape⟩ := exists_of_layout same member
  have sameID : other.id = task.id := congrArg Prod.fst sameShape
  have sameAgent : other.agentID = task.agentID := congrArg (fun shape => shape.2.1) sameShape
  rw [contains_iff, ← sameShape, ← contains_iff] at contains
  rw [← sameID]
  exact proper other isOther (sameAgent.trans isAgent) contains

theorem Refers.of_layout {currentState : CurrentState} (refers : Refers tasks currentState)
    (same : layout tasks = layout others) :
    Refers others currentState := by
  obtain ⟨task, member, contains, isTask, isAgent⟩ := refers
  obtain ⟨other, isOther, sameShape⟩ := exists_of_layout same member
  have sameID : other.id = task.id := congrArg Prod.fst sameShape
  have sameAgent : other.agentID = task.agentID := congrArg (fun shape => shape.2.1) sameShape
  rw [contains_iff, ← sameShape, ← contains_iff] at contains
  exact ⟨other, isOther, contains, isTask.trans sameID.symm, isAgent.trans sameAgent.symm⟩

private theorem task_unique (distinct : ((flatActions tasks).map Action.id).Nodup) {other : Task}
    (member : task ∈ tasks) (isOther : other ∈ tasks) (contains : Contains task actionID)
    (otherContains : Contains other actionID) :
    task = other := by
  induction tasks with
  | nil => cases member
  | cons head rest ih =>
    rw [flatActions, List.flatMap_cons, List.map_append, List.nodup_append] at distinct
    obtain ⟨_, distinctRest, apart⟩ := distinct
    have notInRest : ∀ later ∈ rest, Contains head actionID → ¬Contains later actionID := by
      rintro later inRest ⟨first, isFirst, rfl⟩ ⟨second, isSecond, same⟩
      have inFlat : second ∈ rest.flatMap Task.actions :=
        List.mem_flatMap.mpr ⟨later, inRest, isSecond⟩
      exact apart _ (List.mem_map_of_mem isFirst) _ (List.mem_map_of_mem inFlat) same.symm
    rcases List.mem_cons.mp member with rfl | inRest
    · rcases List.mem_cons.mp isOther with rfl | otherInRest
      · rfl
      · exact absurd otherContains (notInRest other otherInRest contains)
    · rcases List.mem_cons.mp isOther with rfl | otherInRest
      · exact absurd contains (notInRest task inRest otherContains)
      · exact ih distinctRest inRest otherInRest

private theorem ids_of_layout (same : layout tasks = layout others) :
    (flatActions tasks).map Action.id = (flatActions others).map Action.id := by
  have isLayout : ∀ list : List Task, (flatActions list).map Action.id =
      (layout list).flatMap fun shape => shape.2.2 := by
    simp [flatActions, layout, taskShape, List.map_flatMap, List.flatMap_map]
  rw [isLayout, isLayout, same]

theorem Formed.wellFormed (formed : Formed status)
    (distinct : ((flatActions status.tasks).map Action.id).Nodup) : WellFormed status where
  state := formed.state
  actions := formed.actions
  current currentState isCurrent := by
    obtain ⟨_, task, member, contains, isTask, isAgent⟩ := formed.refers currentState isCurrent
    refine ⟨⟨task, member, contains⟩, ?_⟩
    intro other isOther otherContains
    rw [← task_unique distinct member isOther contains otherContains]
    exact ⟨isTask, isAgent⟩

theorem mem_of_selectTask (selected : selectTask tasks = .ok task) : task ∈ tasks := by
  unfold selectTask at selected
  split at selected
  · cases selected
  · split at selected
    · cases selected
      exact List.mem_cons_self
    · split at selected
      · next found =>
        cases selected
        exact List.mem_of_find?_eq_some found
      · cases selected

private theorem mem_of_nextAction {actions : List Action}
    (next : nextAction actionID actions = .ok action) : action ∈ actions := by
  induction actions with
  | nil => cases next
  | cons head _ ih =>
    unfold nextAction at next
    split at next
    · split at next
      · cases next
      · cases next
        exact List.mem_cons_of_mem _ List.mem_cons_self
    · exact List.mem_cons_of_mem head (ih next)

theorem mem_of_resolveAction {currentState : Option CurrentState}
    (resolved : resolveAction task currentState = .ok action) :
    action ∈ task.actions := by
  rcases resolveAction_cases resolved with ⟨_, rest, isFirst⟩ | ⟨_, started⟩
  · rw [isFirst]
    exact List.mem_cons_self
  · unfold resolveStarted at started
    split at started
    · cases started
    · split at started
      · split at started
        · next found =>
          cases started
          exact List.mem_of_find?_eq_some found
        · cases started
      · split at started
        · cases started
        · exact mem_of_nextAction started

variable {agentID client : String} {reconciled : Reconciled}

theorem Formed.served (formed : Formed wf.status) (serves : Serves agentID wf task action) :
    Formed { wf.status with currentState := some (servedState agentID task action) } where
  state := formed.state
  actions := formed.actions
  refers currentState isCurrent := by
    have isTask := mem_of_selectTask serves.taskSelected
    have isAction := mem_of_resolveAction serves.actionResolved
    cases isCurrent
    exact ⟨formed.actions task isTask action isAction, task, isTask, ⟨action, isAction, rfl⟩,
      rfl, serves.assigned.symm⟩

theorem inTasks_of_locate (located : locate actionID agentID tasks = some place) :
    place.In tasks ∧ place.action.id = actionID ∧ place.task.agentID = agentID := by
  obtain ⟨inTasks, isMatch, _⟩ := findPlace_eq_some_iff.mp located
  rw [Bool.and_eq_true, decide_eq_true_eq, decide_eq_true_eq] at isMatch
  exact ⟨inTasks, isMatch⟩

private theorem forall_mem_replace {holds : Action → Prop} (inTasks : place.In tasks)
    (old : ∀ task ∈ tasks, ∀ other ∈ task.actions, holds other) (new : holds action) :
    ∀ task ∈ place.replace action, ∀ other ∈ task.actions, holds other := by
  rw [inTasks.tasks_eq] at old
  have here := old place.task (by simp)
  rw [inTasks.actions_eq] at here
  intro task member other isAction
  rcases List.mem_append.mp member with inBefore | notBefore
  · exact old task (by simp [inBefore]) other isAction
  · rcases List.mem_cons.mp notBefore with rfl | inAfter
    · rcases List.mem_append.mp isAction with inEarlier | notEarlier
      · exact here other (by simp [inEarlier])
      · rcases List.mem_cons.mp notEarlier with rfl | inLater
        · exact new
        · exact here other (by simp [inLater])
    · exact old task (by simp [inAfter]) other isAction

private theorem declared_reportedState {state : WorkflowState} (before : Declared state)
    (reported : Declared request.actionState.workflowState) :
    Declared (reportedState request place state) := by
  unfold reportedState
  dsimp only
  split
  · trivial
  · split
    · exact reported
    · exact before

theorem Formed.reported (formed : Formed status) (proper : ProperReport status.tasks request)
    (located : locate request.actionId request.agentId status.tasks = some place) :
    Formed (reportedStatus request place status) := by
  obtain ⟨inTasks, isAction, isAgent⟩ := inTasks_of_locate located
  have member : place.task ∈ status.tasks := by
    rw [inTasks.tasks_eq]
    simp
  have contains : Contains place.task request.actionId := by
    refine ⟨place.action, ?_, isAction⟩
    rw [inTasks.actions_eq]
    simp
  obtain ⟨isTask, declared⟩ := proper place.task member isAgent contains
  constructor
  · exact declared_reportedState formed.state declared
  · exact forall_mem_replace inTasks formed.actions declared
  · intro currentState isCurrent
    cases isCurrent
    have before : Refers status.tasks
        { agentID := request.agentId, taskID := request.taskId,
          actionID := request.actionId, state := request.actionState.workflowState,
          actionName := request.actionName, taskName := place.task.name } :=
      ⟨place.task, member, contains, isTask, isAgent.symm⟩
    have sameLayout : layout (place.replace (applyReport request place.action)) =
        layout status.tasks := layout_replace inTasks rfl
    exact ⟨declared, before.of_layout sameLayout.symm⟩

/-- What is known of a reconcile between its read and its patch. -/
structure WritesDeclared (reconciled : Reconciled) : Prop where
  state : Declared reconciled.updated.state
  tasks : reconciled.updated.tasks = reconciled.original.tasks
  currentState : reconciled.updated.currentState = reconciled.original.currentState

theorem declared_of_works {handled : Option String} {leaves : State → Prop}
    {before after : State} (works : State.Works handled leaves before after)
    (declared : Declared before.status.state)
    (leaving : leaves after → Declared after.status.state) : Declared after.status.state := by
  rcases works.state with same | failed | left
  · rw [same]
    exact declared
  · rw [failed]
    trivial
  · exact leaving left

theorem Formed.reconciles (formed : Formed wf.status) {replies : Replies} {cluster : Cluster}
    (reconciles : Reconciles replies cluster wf reconciled) :
    WritesDeclared reconciled := by
  have declared := formed.state
  obtain ⟨isOriginal, tasks, currentState⟩ := reconciles.server_fields
  rw [← isOriginal] at tasks currentState
  refine ⟨?_, tasks, currentState⟩
  cases reconciles with
  | idle => exact declared
  | preparing =>
    apply declared_of_works (works_prepareWorkflow replies ⟨wf, cluster, []⟩) declared
    rintro ⟨prepared, _⟩
    rw [prepared.1]
    trivial
  | running _ running =>
    rcases running.state with same | ⟨timedOut, _⟩
    · rw [same]
      exact declared
    · rw [timedOut]
      trivial
  | post =>
    apply declared_of_works (works_postActions replies ⟨wf, cluster, []⟩) declared
    rintro ⟨⟨adopted, isCurrent, isAdopted⟩, _⟩
    rw [isAdopted]
    exact (formed.refers adopted isCurrent).1

theorem Formed.writesDeclared (formed : Formed wf.status) (replies : Replies) (cluster : Cluster) :
    WritesDeclared (reconcile replies cluster wf) := by
  have declared := formed.state
  apply formed.reconciles
  apply reconciles_reconcile
  · intro isNew
    rw [isNew] at declared
    exact declared
  · intro isLegacy
    rw [isLegacy] at declared
    exact declared

theorem Formed.patched (formed : Formed status) (writes : WritesDeclared reconciled) (name : String)
    (reply : WriteReply) :
    Formed (mergePatchStatus name reply reconciled.original reconciled.updated status).1 ∧
      (mergePatchStatus name reply reconciled.original reconciled.updated status).1.tasks =
        status.tasks := by
  unfold mergePatchStatus
  split
  · exact ⟨formed, rfl⟩
  · split
    · have tasks : (mergeStatus reconciled.original reconciled.updated status).tasks =
          status.tasks := by
        simp only [mergeStatus, writes.tasks, MergePatch.mergeField_unchanged]
      have currentState : (mergeStatus reconciled.original reconciled.updated
          status).currentState = status.currentState := by
        simp only [mergeStatus, writes.currentState, MergePatch.mergeObject_unchanged]
      refine ⟨⟨?_, ?_, ?_⟩, tasks⟩
      · show Declared (MergePatch.mergeField _ _ _)
        unfold MergePatch.mergeField
        split
        · exact formed.state
        · exact writes.state
      · rw [tasks]
        exact formed.actions
      · rw [tasks, currentState]
        exact formed.refers
    · exact ⟨formed, rfl⟩

structure Guarded (tasks : List Task) (world : World) : Prop where
  coherent : CoherentReads world
  layout_eq : layout world.status.tasks = layout tasks
  formed : Formed world.status
  proper : ∀ client call request, (world.agents client).call = some call →
    call.request = .report request → ProperReport tasks request
  outstanding : ∀ reconciled, world.controller = some reconciled → WritesDeclared reconciled

section

variable (guarded : Guarded tasks world)
include guarded

theorem Guarded.setAgent
    (client : String) (agent : Agent)
    (coherent : CoherentReads (world.setAgent client agent))
    (proper : ∀ call request, agent.call = some call → call.request = .report request →
      ProperReport tasks request) : Guarded tasks (world.setAgent client agent) where
  coherent
  layout_eq := guarded.layout_eq
  formed := guarded.formed
  proper other call request inFlight isReport := by
    rw [agents_setAgent] at inFlight
    split at inFlight
    · exact proper call request inFlight isReport
    · exact guarded.proper other call request inFlight isReport
  outstanding := guarded.outstanding

theorem Guarded.setRead {read : Option (Versioned Workflow)}
    (coherent : CoherentReads (world.setRead client read)) :
    Guarded tasks (world.setRead client read) := by
  unfold World.setRead at coherent ⊢
  split at coherent
  · exact guarded
  · next call inFlight =>
    apply guarded.setAgent _ _ coherent
    intro other request same isReport
    cases same
    exact guarded.proper client call request inFlight isReport

theorem Guarded.written {call : Call} {written : Workflow}
    {holding left : Option Holding} (inFlight : (world.agents client).call = some call)
    (attempted : attempt client holding world.stored.value call.request = .ok (written, left)) :
    Formed written.status ∧ layout written.status.tasks = layout tasks := by
  have attempts := attempts_of_ok attempted
  generalize isRequest : call.request = request at attempts
  cases attempts with
  | served _ serves => exact ⟨guarded.formed.served serves, guarded.layout_eq⟩
  | reported located =>
    have proper := guarded.proper client call _ inFlight isRequest
    refine ⟨guarded.formed.reported (proper.of_layout guarded.layout_eq) located, ?_⟩
    rw [← guarded.layout_eq]
    exact layout_replace (inTasks_of_locate located).1 rfl

theorem Guarded.write (client : String)
    (coherent : CoherentReads (world.write client)) :
    Guarded tasks (world.write client) := by
  rcases world.write_cases client guarded.coherent with same | dropped | accepted
  · rw [same]
    exact guarded
  · rw [dropped] at coherent ⊢
    exact guarded.setRead coherent
  · obtain ⟨_, _, _, inFlight, attempted, isAccepted⟩ := accepted
    obtain ⟨formed, sameLayout⟩ := guarded.written inFlight attempted
    rw [isAccepted] at coherent ⊢
    refine ⟨coherent, ?_, ?_, ?_, guarded.outstanding⟩
    · rw [World.status, stored_accept, Versioned.put_value]
      exact sameLayout
    · rw [World.status, stored_accept, Versioned.put_value]
      exact formed
    · intro other otherCall request otherInFlight isReport
      rw [agents_accept_of_inFlight otherInFlight] at otherInFlight
      exact guarded.proper other otherCall request otherInFlight isReport

theorem Guarded.patch (reply : WriteReply)
    (coherent : CoherentReads (world.patch reply)) :
    Guarded tasks (world.patch reply) := by
  unfold World.patch at coherent ⊢
  split at coherent
  · next reconciled pending =>
    have writes := guarded.outstanding reconciled pending
    obtain ⟨formed, sameTasks⟩ := guarded.formed.patched writes world.stored.value.name reply
    refine ⟨coherent, ?_, ?_, guarded.proper, ?_⟩
    · rw [status_applyPatch, sameTasks]
      exact guarded.layout_eq
    · rw [status_applyPatch]
      exact formed
    · intro other stillPending
      cases stillPending
  · exact guarded

end

theorem coherentReads_requestStep (coherent : CoherentReads world) (label : RequestLabel) :
    CoherentReads (requestStep world label) := by
  cases label with
  | send client =>
    intro other call read inFlight isRead
    change ((world.setAgent client _).agents other).call = some call at inFlight
    rw [agents_setAgent] at inFlight
    split at inFlight
    · cases inFlight
      cases isRead
    · exact coherent other call read inFlight isRead
  | read client => exact coherentReads_step (.read client) coherent
  | write client => exact coherentReads_step (.write client) coherent
  | beginReconcile replies => exact coherentReads_step (.beginReconcile replies) coherent
  | patch reply => exact coherentReads_step (.patch reply) coherent
  | job event => exact coherentReads_step (.job event) coherent

theorem Guarded.requestStep {label : RequestLabel} (guarded : Guarded tasks world)
    (proper : ProperRequest world label) :
    Guarded tasks (requestStep world label) := by
  have coherent := coherentReads_requestStep guarded.coherent label
  cases label with
  | send client =>
    apply guarded.setAgent client _ coherent
    intro call report same isReport
    cases same
    subst isReport
    exact proper.of_layout guarded.layout_eq.symm
  | read => exact guarded.setRead coherent
  | write client => exact guarded.write client coherent
  | beginReconcile replies =>
    refine ⟨coherent, guarded.layout_eq, guarded.formed, guarded.proper, ?_⟩
    intro reconciled pending
    cases pending
    exact guarded.formed.writesDeclared replies world.cluster
  | patch reply => exact guarded.patch reply coherent
  | job =>
    exact ⟨coherent, guarded.layout_eq, guarded.formed, guarded.proper, guarded.outstanding⟩

private theorem guarded_start (wf : Workflow) (ids : IdSource) (definition : Template.Workflow)
    (cluster : Cluster) :
    Guarded (yamlToStatus ids definition).tasks
      (World.start (readyWorkflow wf ids definition) cluster) where
  coherent := coherentReads_start _ cluster
  layout_eq := rfl
  formed :=
    { state := trivial
      actions := by
        intro task member action isAction
        have inFlat : action ∈ flatActions (yamlToStatus ids definition).tasks :=
          List.mem_flatMap.mpr ⟨task, member, isAction⟩
        rw [(Template.mem_flatActions_yamlToStatus inFlat).1]
        trivial
      refers := by
        intro currentState isCurrent
        cases isCurrent }
  proper := by
    intro client call request inFlight
    cases inFlight
  outstanding := by
    intro reconciled pending
    cases pending

/-- After any sequence of requests of any clients and reconciles, in any order, the
status is well formed, provided that every report that finds its action names the
task of that action and a declared state. -/
theorem status_stays_well_formed (wf : Workflow) (ids : IdSource)
    (definition : Template.Workflow) (cluster : Cluster) (labels : List RequestLabel)
    (distinct : DistinctIDs (yamlToStatus ids definition).tasks)
    (meets : Meets requestStep ProperRequest
      (World.start (readyWorkflow wf ids definition) cluster) labels) :
    WellFormed (run requestStep
      (World.start (readyWorkflow wf ids definition) cluster) labels).status := by
  have guarded := run_invariant (fun _ _ => Guarded.requestStep)
    (guarded_start wf ids definition cluster) meets
  apply guarded.formed.wellFormed
  rw [ids_of_layout guarded.layout_eq]
  exact distinct.2

def reportAlone (taskID : String) (state : StateType) : List RequestLabel :=
  [.send "anyone" (.report
      { workflowId := "tink/sample", agentId := "agent-a", taskId := taskID,
        actionId := "action-0-0", actionState := state }),
    .read "anyone", .write "anyone"]

def readyWorld : World := World.start (readyWorkflow sampleWorkflow listedIds oneTask) emptyCluster

theorem status_stays_well_formed_oneTask :
    WellFormed (run requestStep readyWorld (reportAlone "task-0" .running)).status :=
  status_stays_well_formed sampleWorkflow listedIds oneTask emptyCluster _ (by decide)
    (by decide)

/-- A report with no state leaves an undeclared state behind, and one with another
task a current state whose task does not exist. -/
theorem stray_reports_malform :
    ¬WellFormed (run requestStep readyWorld (reportAlone "task-0" .unspecified)).status ∧
    ¬WellFormed (run requestStep readyWorld (reportAlone "elsewhere" .running)).status := by
  constructor
  · intro wellFormed
    exact absurd wellFormed.state (by decide)
  · intro wellFormed
    have current := (wellFormed.current
      { agentID := "agent-a", taskID := "elsewhere", actionID := "action-0-0",
        state := .running, taskName := "first" } rfl).2
    exact absurd current (by decide)

end Tinkerbell.System

import Tinkerbell.System.Lifecycle
import Tinkerbell.System.Progress

/-!
Owns: ordered execution over whole runs. Whatever the interleaving, the stored
status stays in order, and an agent that holds an action holds the current one.

From this follow what the actions look like in every reachable state, who is
served what, and which report completes a workflow.
-/

namespace Tinkerbell.System

open Api Server Controller TransitionSystem
open Template (IdSource yamlToStatus DistinctIDs)

def taskShape (task : Task) : String × String × List String :=
  (task.id, task.agentID, task.actions.map Action.id)

def layout (tasks : List Task) : List (String × String × List String) :=
  tasks.map taskShape

/-- The current state points at the action of a place. -/
structure PointsOn (place : Place) (currentState : CurrentState) : Prop where
  task : currentState.taskID = place.task.id
  action : currentState.actionID = place.action.id
  state : currentState.state = place.action.state

structure HoldsPlace (status : WorkflowStatus) (agentID : String)
    (holding : Holding) (place : Place) : Prop where
  stands : StandsAt status.tasks place
  points : ∃ currentState, status.currentState = some currentState ∧
    PointsOn place currentState
  action : holding.response.actionId = place.action.id
  task : holding.response.taskId = place.task.id
  agent : place.task.agentID = agentID

structure Execution (wf : Workflow)
    (shape : List (String × String × List String)) (world : World) : Prop where
  lifecycle : Lifecycle wf world
  started : ¬Early world.status.state
  ordered : Ordered world.status
  layout_eq : layout world.status.tasks = shape
  post : world.status.state = .post → currentPlace world.status.tasks = none
  holds : ∀ agentID holding, (world.agents agentID).holding = some holding →
    ∃ place, HoldsPlace world.status agentID holding place
  asking : ∀ agentID call, (world.agents agentID).call = some call →
    call.request = .getAction → (world.agents agentID).holding = none
  reports : ∀ agentID call request, (world.agents agentID).call = some call →
    call.request = .report request → ∃ holding state details,
      (world.agents agentID).holding = some holding ∧ holding.MayReport state ∧
        request = reportRequest agentID holding.response state details

def readyWorkflow (wf : Workflow) (ids : IdSource)
    (definition : Template.Workflow) : Workflow :=
  { wf with status := { yamlToStatus ids definition with state := .pending } }

variable {ids : IdSource} {definition : Template.Workflow} {status : WorkflowStatus}

theorem execution_start (wf : Workflow) (cluster : Cluster)
    (distinct : DistinctIDs (yamlToStatus ids definition).tasks) :
    Execution (readyWorkflow wf ids definition)
      (layout (yamlToStatus ids definition).tasks)
      (World.start (readyWorkflow wf ids definition) cluster) where
  lifecycle := lifecycle_start ⟨Or.inr rfl, rfl, by simp [readyWorkflow]⟩ cluster
  started := by simp [Early, World.start, readyWorkflow]
  ordered := ordered_yamlToStatus distinct
  layout_eq := rfl
  post := by simp [World.start, readyWorkflow]
  holds := by
    intro agentID holding held
    cases held
  asking := by
    intro agentID call inFlight
    cases inFlight
  reports := by
    intro agentID call request inFlight
    cases inFlight

section Steps

variable {wf : Workflow} {shape : List (String × String × List String)} {world : World}

theorem StandsAt.unique {tasks : List Task} {first second : Place}
    (left : StandsAt tasks first) (right : StandsAt tasks second) : first = second :=
  Option.some.inj (left.current.symm.trans right.current)

variable {place : Place} {agentID : String} {call : Call} {request : ActionStatusRequest}

variable {holding : Holding} {action : Action} {written : Workflow} {left : Option Holding}

theorem Execution.holder (execution : Execution wf shape world)
    (stands : StandsAt world.status.tasks place)
    (held : (world.agents agentID).holding = some holding) :
    HoldsPlace world.status agentID holding place := by
  obtain ⟨held, holds⟩ := execution.holds agentID holding held
  obtain rfl : held = place := holds.stands.unique stands
  exact holds

theorem Execution.reportsOn (execution : Execution wf shape world)
    (inFlight : (world.agents agentID).call = some call)
    (isReport : call.request = .report request) :
    ∃ holding place, (world.agents agentID).holding = some holding ∧
      HoldsPlace world.status agentID holding place ∧ IsFor request place ∧
      holding.MayReport request.actionState := by
  obtain ⟨holding, _, _, held, mayReport, rfl⟩ :=
    execution.reports agentID call request inFlight isReport
  obtain ⟨place, holds⟩ := execution.holds agentID holding held
  exact ⟨holding, place, held, holds, ⟨holds.action, holds.task, holds.agent.symm⟩, mayReport⟩

theorem layout_replace {tasks : List Task} (inTasks : place.In tasks)
    (sameID : action.id = place.action.id) :
    layout (place.replace action) = layout tasks := by
  rw [inTasks.tasks_eq]
  simp [layout, Place.replace, taskShape, inTasks.actions_eq, sameID]

theorem ServesPlace.holds {stored : Workflow} {task : Task}
    (served : ServesPlace agentID stored.status task action place) :
    HoldsPlace { stored.status with
        currentState := some (servedState agentID task action) } agentID
      { response := actionResponse agentID stored task action } place := by
  obtain ⟨stands, _, rfl, rfl, assigned⟩ := served
  exact ⟨stands, ⟨_, rfl, rfl, rfl, rfl⟩, rfl, rfl, assigned⟩

theorem HoldsPlace.reported (holds : HoldsPlace status agentID holding place)
    (isFor : IsFor request place) (running : request.actionState = .running) :
    HoldsPlace (reportedStatus request place status) agentID
      { holding with reportedRunning := true }
      (placeWith place (applyReport request place.action)) where
  stands := holds.stands.replace _ (by simp [applyReport, running, StateType.workflowState])
  points := ⟨_, rfl, isFor.task, isFor.action, rfl⟩
  action := holds.action
  task := holds.task
  agent := holds.agent

section

variable (execution : Execution wf shape world)
include execution

theorem Execution.isLast_of_post
    (stands : StandsAt world.status.tasks place)
    (post : (reportedStatus request place world.status).state = .post) :
    place.isLast ∧ request.actionState = .success := by
  have wasNotPost : world.status.state ≠ .post := by
    intro wasPost
    have finished := execution.post wasPost
    rw [stands.current] at finished
    cases finished
  simp only [reportedStatus, reportedState] at post
  split at post
  · next last => exact last
  · split at post
    · generalize request.actionState = state at post
      cases state <;> simp [StateType.workflowState] at post
    · exact absurd post wasNotPost

theorem Execution.accepted
    (inFlight : (world.agents agentID).call = some call)
    (attempts : Attempts agentID (world.agents agentID).holding world.stored.value
      call.request written left) :
    ∃ place, StandsAt world.status.tasks place ∧ place.task.agentID = agentID ∧
      Ordered written.status ∧ layout written.status.tasks = shape ∧
      (written.status.state = .post → currentPlace written.status.tasks = none) ∧
      ∀ holding, left = some holding →
        ∃ next, HoldsPlace written.status agentID holding next := by
  have ordered := execution.ordered
  generalize isRequest : call.request = request at attempts
  cases attempts with
  | served _ serves =>
    obtain ⟨place, served⟩ := ordered.serves serves
    have holds := served.holds
    refine ⟨place, served.stands, served.assigned, ?_, execution.layout_eq, execution.post, ?_⟩
    · obtain ⟨_, isCurrent, on⟩ := holds.points
      refine ⟨ordered.distinct, .standing served.stands ?_⟩
      rw [isCurrent]
      exact .onAction on.task on.action on.state
    · intro holding isLeft
      cases isLeft
      exact ⟨place, holds⟩
  | @reported report located isLocated =>
    obtain ⟨_, place, held, holds, isFor, _⟩ :=
      execution.reportsOn inFlight isRequest
    have inTasks := holds.stands.inTasks
    obtain rfl : located = place := by
      have found := locate_of_isFor ordered.distinct inTasks isFor
      exact Option.some.inj (isLocated.symm.trans found)
    refine ⟨located, holds.stands, holds.agent, ordered.reported holds.stands isFor, ?_, ?_, ?_⟩
    · rw [← execution.layout_eq]
      exact layout_replace inTasks rfl
    · intro isPost
      have last := execution.isLast_of_post holds.stands isPost
      exact holds.stands.finished_of_isLast (applyReport report located.action) last.1
        (by simp [applyReport, last.2, StateType.workflowState])
    · intro next isLeft
      unfold afterReport at isLeft
      split at isLeft
      · next running =>
        rw [held] at isLeft
        cases isLeft
        exact ⟨_, holds.reported isFor running⟩
      · cases isLeft

theorem Execution.accept
    (inFlight : (world.agents agentID).call = some call)
    (attempts : Attempts agentID (world.agents agentID).holding world.stored.value
      call.request written left) :
    Execution wf shape (world.accept agentID (world.stored.put written) left) := by
  obtain ⟨_, stands, agent, ordered, sameLayout, post, holdsNext⟩ :=
    execution.accepted inFlight attempts
  have status : (world.accept agentID (world.stored.put written) left).status =
      written.status := by simp [World.status]
  refine ⟨execution.lifecycle.accept inFlight attempts, ?_, ?_, ?_, ?_, ?_, ?_, ?_⟩
  · rw [status]
    exact attempts.not_early execution.started
  · rw [status]
    exact ordered
  · rw [status]
    exact sameLayout
  · rw [status]
    exact post
  · intro other holding held
    rw [agents_accept] at held
    rw [status]
    split at held
    · next same =>
      subst same
      exact holdsNext holding held
    · next different =>
      -- Another holder would be the agent of the same task.
      exact absurd ((execution.holder stands held).agent.symm.trans agent) different
  · intro other otherCall otherInFlight isAsk
    have unchanged := agents_accept_of_inFlight otherInFlight
    rw [unchanged] at otherInFlight ⊢
    exact execution.asking other otherCall otherInFlight isAsk
  · intro other otherCall request otherInFlight isReport
    have unchanged := agents_accept_of_inFlight otherInFlight
    rw [unchanged] at otherInFlight ⊢
    exact execution.reports other otherCall request otherInFlight isReport

theorem Execution.prepare {label : Label} {agent : Agent}
    (prepares : Prepares world label agentID agent) :
    Execution wf shape (world.setAgent agentID agent) := by
  have lifecycle := (inductive_lifecycle wf).prepare world label agentID agent
    execution.lifecycle trivial prepares
  refine ⟨lifecycle, execution.started, execution.ordered, execution.layout_eq,
    execution.post, ?_, ?_, ?_⟩
  · intro other holding held
    rw [agents_setAgent] at held
    split at held
    · next same =>
      subst same
      cases prepares with
      | ask => cases held
      | report _ was =>
        cases held
        exact execution.holds other holding was
      | setRead => exact execution.holds other holding held
    · exact execution.holds other holding held
  · intro other call inFlight isAsk
    rw [agents_setAgent] at inFlight ⊢
    split at inFlight
    · next same =>
      rw [if_pos same]
      cases prepares with
      | ask => rfl
      | report =>
        cases inFlight
        cases isAsk
      | setRead _ was =>
        cases inFlight
        exact execution.asking agentID _ was isAsk
    · next different =>
      rw [if_neg different]
      exact execution.asking other call inFlight isAsk
  · intro other call request inFlight isReport
    rw [agents_setAgent] at inFlight ⊢
    split at inFlight
    · next same =>
      rw [if_pos same]
      subst same
      cases prepares with
      | ask =>
        cases inFlight
        cases isReport
      | report details _ mayReport =>
        cases inFlight
        cases isReport
        exact ⟨_, _, details, rfl, mayReport, rfl⟩
      | setRead _ was =>
        cases inFlight
        exact execution.reports other _ request was isReport
    · next different =>
      rw [if_neg different]
      exact execution.reports other call request inFlight isReport

end

end Steps

theorem inductive_execution (wf : Workflow)
    (shape : List (String × String × List String)) :
    Inductive (fun _ _ => True) (Execution wf shape) where
  prepare world label agentID agent execution _ prepares := execution.prepare prepares
  accept world agentID call written holding execution _ inFlight attempted :=
    execution.accept inFlight (attempts_of_ok attempted)
  beginReconcile world replies execution met :=
    { execution with
      lifecycle := (inductive_lifecycle wf).beginReconcile world replies
        execution.lifecycle met }
  patch world reply reconciled execution met pending := by
    obtain ⟨started, post, tasks, currentState⟩ :=
      execution.lifecycle.patched_started execution.started pending reply
    have lifecycle := execution.lifecycle.patch pending reply
    refine ⟨lifecycle, started, ?_, ?_, ?_, ?_, execution.asking, execution.reports⟩
    · refine ⟨?_, ?_⟩
      · rw [tasks]
        exact execution.ordered.distinct
      · rw [tasks, currentState]
        exact execution.ordered.progress
    · rw [tasks]
      exact execution.layout_eq
    · intro isPost
      rw [tasks]
      exact execution.post (post isPost)
    · intro agentID holding held
      obtain ⟨place, holds⟩ := execution.holds agentID holding held
      refine ⟨place, ?_, ?_, holds.action, holds.task, holds.agent⟩
      · rw [tasks]
        exact holds.stands
      · rw [currentState]
        exact holds.points
  job world event execution met :=
    { execution with
      lifecycle := (inductive_lifecycle wf).job world event execution.lifecycle met }

theorem execution_run (wf : Workflow) (cluster : Cluster) (labels : List Label)
    (distinct : DistinctIDs (yamlToStatus ids definition).tasks) :
    Execution (readyWorkflow wf ids definition)
      (layout (yamlToStatus ids definition).tasks)
      (run step (World.start (readyWorkflow wf ids definition) cluster) labels) :=
  (inductive_execution _ _).run_start (execution_start wf cluster distinct) labels

def SucceededPrefix (tasks : List Task) : Prop :=
  ∃ done rest, flatActions tasks = done ++ rest ∧
    (∀ action ∈ done, action.state = .success) ∧
    ∀ action ∈ rest, action.state ≠ .success

def runningCount (tasks : List Task) : Nat :=
  (flatActions tasks).countP fun action => action.state = .running

structure ServedInOrder (agentID actionID : String) (tasks : List Task)
    (place : Place) : Prop where
  inTasks : place.In tasks
  action : place.action.id = actionID
  agent : place.task.agentID = agentID
  earlier : ∀ action ∈ flatActions place.before ++ place.earlier,
    action.state = .success
  notSucceeded : place.action.state ≠ .success

variable {tasks : List Task} {place : Place}

theorem StandsAt.flat_done (stands : StandsAt tasks place) :
    ∀ action ∈ flatActions place.before ++ place.earlier, action.state = .success := by
  intro action member
  rcases List.mem_append.mp member with inBefore | inEarlier
  · obtain ⟨task, taskBefore, inTask⟩ := List.mem_flatMap.mp inBefore
    exact stands.before task taskBefore action inTask
  · exact stands.earlier action inEarlier

theorem StandsAt.flat_rest (stands : StandsAt tasks place) :
    ∀ action ∈ place.later ++ flatActions place.after, action.state = .pending := by
  intro action member
  rcases List.mem_append.mp member with inLater | inAfter
  · exact stands.later action inLater
  · obtain ⟨task, taskAfter, inTask⟩ := List.mem_flatMap.mp inAfter
    exact stands.after task taskAfter action inTask

theorem flatActions_split (inTasks : place.In tasks) :
    flatActions tasks = (flatActions place.before ++ place.earlier) ++
      place.action :: (place.later ++ flatActions place.after) := by
  rw [inTasks.flatActions_eq]
  simp

theorem flatActions_succeeded (finished : currentPlace tasks = none) :
    ∀ action ∈ flatActions tasks, action.state = .success := by
  intro action member
  obtain ⟨task, inTasks, inTask⟩ := List.mem_flatMap.mp member
  exact currentPlace_eq_none_iff.mp finished task inTasks action inTask

theorem Ordered.succeededPrefix (ordered : Ordered status) : SucceededPrefix status.tasks := by
  cases ordered.progress with
  | finished all => exact ⟨_, [], by simp, flatActions_succeeded all, by simp⟩
  | @standing _ stands =>
    refine ⟨_, _, flatActions_split stands.inTasks, stands.flat_done, ?_⟩
    intro action member
    rcases List.mem_cons.mp member with rfl | inRest
    · exact stands.notSucceeded
    · rw [stands.flat_rest action inRest]
      simp

theorem Ordered.runningCount_le (ordered : Ordered status) : runningCount status.tasks ≤ 1 := by
  unfold runningCount
  cases ordered.progress with
  | finished all =>
    have noneRunning : (flatActions status.tasks).countP
        (fun action => action.state = .running) = 0 := by
      apply List.countP_eq_zero.mpr
      intro action member
      simp [flatActions_succeeded all action member]
    omega
  | @standing place stands =>
    have done : (flatActions place.before ++ place.earlier).countP
        (fun action => action.state = .running) = 0 := by
      apply List.countP_eq_zero.mpr
      intro action member
      simp [stands.flat_done action member]
    have rest : (place.later ++ flatActions place.after).countP
        (fun action => action.state = .running) = 0 := by
      apply List.countP_eq_zero.mpr
      intro action member
      simp [stands.flat_rest action member]
    rw [flatActions_split stands.inTasks, List.countP_append, List.countP_cons, done, rest]
    split <;> omega

theorem Execution.servedInOrder {wf : Workflow}
    {shape : List (String × String × List String)} {world : World}
    (execution : Execution wf shape world) (coherent : CoherentReads world)
    {agentID : String} {call : Call} {holding : Holding}
    (inFlight : (world.agents agentID).call = some call)
    (isAsk : call.request = .getAction)
    (served : ((step world (.write agentID)).agents agentID).holding = some holding) :
    ∃ place, ServedInOrder agentID holding.response.actionId world.status.tasks place := by
  have notHolding := execution.asking agentID call inFlight isAsk
  change ((world.write agentID).agents agentID).holding = some holding at served
  rcases world.write_cases agentID coherent with same | dropped | accepted
  · rw [same, notHolding] at served
    cases served
  · rw [dropped, World.setRead, inFlight] at served
    simp only [agents_setAgent, if_true] at served
    rw [notHolding] at served
    cases served
  · obtain ⟨other, _, _, otherInFlight, attempted, isAccepted⟩ := accepted
    obtain rfl : call = other := Option.some.inj (inFlight.symm.trans otherInFlight)
    rw [isAccepted, agents_accept, if_pos rfl] at served
    have attempts := attempts_of_ok attempted
    rw [isAsk] at attempts
    cases attempts with
    | served _ serves =>
      cases served
      obtain ⟨place, stands, _, rfl, rfl, assigned⟩ := execution.ordered.serves serves
      exact ⟨place, stands.inTasks, rfl, assigned, stands.flat_done, stands.notSucceeded⟩

/-- Ordered execution: in every reachable state the succeeded actions form a
prefix, at most one action is running, and a call for an action is answered only
with the first action that has not succeeded, for the agent of its task. -/
theorem ordered_execution (wf : Workflow) (ids : IdSource)
    (definition : Template.Workflow) (cluster : Cluster) (labels : List Label)
    (distinct : DistinctIDs (yamlToStatus ids definition).tasks) :
    let world := run step (World.start (readyWorkflow wf ids definition) cluster) labels
    SucceededPrefix world.status.tasks ∧
      runningCount world.status.tasks ≤ 1 ∧
      ∀ agentID call holding, (world.agents agentID).call = some call →
        call.request = .getAction →
        ((step world (.write agentID)).agents agentID).holding = some holding →
        ∃ place, ServedInOrder agentID holding.response.actionId world.status.tasks
          place := by
  have execution := execution_run wf cluster labels distinct
  have coherent := coherentReads_run (readyWorkflow wf ids definition) cluster labels
  refine ⟨execution.ordered.succeededPrefix, execution.ordered.runningCount_le, ?_⟩
  intro agentID call holding inFlight isAsk served
  exact execution.servedInOrder coherent inFlight isAsk served

def secondTask : Template.Task where
  name := "second"
  workerAddr := "agent-b"
  actions := [{ name := "install", image := "two" }]

def twoAgents : Template.Workflow where
  name := "two agents"
  globalTimeout := 600
  tasks := oneTask.tasks ++ [secondTask]

theorem ordered_execution_twoAgents :
    let world := run step
      (World.start (readyWorkflow sampleWorkflow listedIds twoAgents) emptyCluster)
      (startAction "agent-a")
    runningCount world.status.tasks = 1 ∧ SucceededPrefix world.status.tasks :=
  ⟨by decide, (ordered_execution sampleWorkflow listedIds twoAgents emptyCluster
    (startAction "agent-a") (by decide)).1⟩

/-- Whatever the interleaving, at most one agent has an action to execute: the first
that has not succeeded, of a task that is its own, with nothing behind it begun. -/
theorem one_agent_at_a_time (wf : Workflow) (ids : IdSource) (definition : Template.Workflow)
    (cluster : Cluster) (labels : List Label)
    (distinct : DistinctIDs (yamlToStatus ids definition).tasks) :
    let world := run step (World.start (readyWorkflow wf ids definition) cluster) labels
    ∀ first second holding other, (world.agents first).holding = some holding →
      (world.agents second).holding = some other →
      first = second ∧ ∃ place,
        ServedInOrder first holding.response.actionId world.status.tasks place ∧
        ∀ action ∈ place.later ++ flatActions place.after, action.state = .pending := by
  have execution := execution_run wf cluster labels distinct
  intro world first second holding other firstHolds secondHolds
  obtain ⟨place, holds⟩ := execution.holds first holding firstHolds
  have stands := holds.stands
  have otherHolds := execution.holder stands secondHolds
  refine ⟨holds.agent.symm.trans otherHolds.agent, place, ?_, stands.flat_rest⟩
  exact ⟨stands.inTasks, holds.action.symm, holds.agent, stands.flat_done, stands.notSucceeded⟩

theorem one_agent_at_a_time_twoAgents :
    let world := run step
      (World.start (readyWorkflow sampleWorkflow listedIds twoAgents) emptyCluster)
      (startAction "agent-a")
    ∃ holding, (world.agents "agent-a").holding = some holding ∧
      ∀ second other, (world.agents second).holding = some other → "agent-a" = second := by
  have isHolding : ((run step
      (World.start (readyWorkflow sampleWorkflow listedIds twoAgents) emptyCluster)
      (startAction "agent-a")).agents "agent-a").holding.isSome = true := by decide
  obtain ⟨holding, held⟩ := Option.isSome_iff_exists.mp isHolding
  refine ⟨holding, held, ?_⟩
  intro second other otherHolds
  exact (one_agent_at_a_time sampleWorkflow listedIds twoAgents emptyCluster
    (startAction "agent-a") (by decide) _ _ _ _ held otherHolds).1

section Kept

variable {wf : Workflow} {shape : List (String × String × List String)} {world : World}
  {action : Action} (succeeded : action.state = .success)

include succeeded

theorem Execution.keeps (execution : Execution wf shape world) {agentID : String} {call : Call}
    {written : Workflow} {left : Option Holding}
    (inFlight : (world.agents agentID).call = some call)
    (attempts : Attempts agentID (world.agents agentID).holding world.stored.value
      call.request written left)
    (member : action ∈ flatActions world.status.tasks) :
    action ∈ flatActions written.status.tasks := by
  generalize isRequest : call.request = request at attempts
  cases attempts with
  | served => exact member
  | @reported report located isLocated =>
    obtain ⟨_, _, _, holds, isFor, _⟩ := execution.reportsOn inFlight isRequest
    have found := locate_of_isFor execution.ordered.distinct holds.stands.inTasks isFor
    cases isLocated.symm.trans found
    -- the report is on an action that has not succeeded
    have different : action ≠ located.action := by
      rintro rfl
      exact holds.stands.notSucceeded succeeded
    rw [flatActions_split holds.stands.inTasks] at member
    show action ∈ flatActions (located.replace _)
    rw [Place.flatActions_replace]
    simp only [List.mem_append, List.mem_cons, different, false_or] at member ⊢
    tauto

theorem inductive_kept (wf : Workflow) (shape : List (String × String × List String)) :
    Inductive (fun _ _ => True) fun world =>
      Execution wf shape world ∧ action ∈ flatActions world.status.tasks where
  prepare world label agentID agent holds met prepares := ⟨holds.1.prepare prepares, holds.2⟩
  accept world agentID call written holding holds met inFlight attempted := by
    have attempts := attempts_of_ok attempted
    refine ⟨holds.1.accept inFlight attempts, ?_⟩
    simpa [World.status] using holds.1.keeps succeeded inFlight attempts holds.2
  beginReconcile world replies holds met :=
    ⟨(inductive_execution wf shape).beginReconcile world replies holds.1 met, holds.2⟩
  patch world reply reconciled holds met pending := by
    have patched := holds.1.lifecycle.patched_started holds.1.started pending reply
    refine ⟨(inductive_execution wf shape).patch world reply reconciled holds.1 met pending, ?_⟩
    rw [patched.2.2.1]
    exact holds.2
  job world event holds met :=
    ⟨(inductive_execution wf shape).job world event holds.1 met, holds.2⟩

/-- An action that has succeeded is never touched again, neither its state nor its times nor
its message, however the run goes on. -/
theorem success_is_kept (wf : Workflow) (ids : IdSource) (definition : Template.Workflow)
    (cluster : Cluster) (labels more : List Label)
    (distinct : DistinctIDs (yamlToStatus ids definition).tasks)
    (member : action ∈ flatActions (run step
      (World.start (readyWorkflow wf ids definition) cluster) labels).status.tasks) :
    action ∈ flatActions (run step
      (World.start (readyWorkflow wf ids definition) cluster) (labels ++ more)).status.tasks := by
  rw [run_append]
  exact ((inductive_kept succeeded _ _).run (coherentReads_run _ cluster labels)
    ⟨execution_run wf cluster labels distinct, member⟩ (meets_of_forall fun _ _ => trivial)).2

end Kept

theorem success_is_kept_twoAgents :
    ∃ action, action.state = .success ∧ ∀ more, action ∈ flatActions (run step
      (World.start (readyWorkflow sampleWorkflow listedIds twoAgents) emptyCluster)
      (runAction "agent-a" ++ more)).status.tasks := by
  have one : ((flatActions (run step
      (World.start (readyWorkflow sampleWorkflow listedIds twoAgents) emptyCluster)
      (runAction "agent-a")).status.tasks).any fun action => action.state = .success) = true := by
    decide
  obtain ⟨action, member, isSuccess⟩ := List.any_eq_true.mp one
  have succeeded := of_decide_eq_true isSuccess
  refine ⟨action, succeeded, ?_⟩
  intro more
  exact success_is_kept succeeded sampleWorkflow listedIds twoAgents emptyCluster _ more
    (by decide) member

end Tinkerbell.System

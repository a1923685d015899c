import Tinkerbell.System.Order

/-!
Owns: the global deadline. The controller sets it while the current state still
names the first action and that action has a start time; it declares the timeout
from the status it read and patches it over whatever is stored by then.
-/

variable {cluster : Cluster}

namespace Tinkerbell.System

open Api Server Controller TransitionSystem
open Template (IdSource yamlToStatus DistinctIDs
  mem_flatActions_yamlToStatus)

/-- The first task of a layout has an action. -/
def StartsWithAction (shape : List (String × String × List String)) : Prop :=
  ∃ taskID agentID actionID actionIDs rest,
    shape = (taskID, agentID, actionID :: actionIDs) :: rest

variable {status : WorkflowStatus} {first : Action} {definition : Template.Workflow}
  {stored : Workflow}

private theorem exists_firstAction (hasFirst : StartsWithAction (layout status.tasks)) :
    ∃ first, firstAction status = some first := by
  obtain ⟨_, _, actionID, actionIDs, _, isLayout⟩ := hasFirst
  unfold firstAction
  cases tasksSplit : status.tasks with
  | nil =>
    rw [tasksSplit] at isLayout
    cases isLayout
  | cons task =>
    rw [tasksSplit] at isLayout
    have ids : task.actions.map Action.id = actionID :: actionIDs := by
      have shapes := (List.cons.inj isLayout).1
      exact congrArg (fun shape => shape.2.2) shapes
    cases actionsSplit : task.actions with
    | nil =>
      rw [actionsSplit] at ids
      cases ids
    | cons first => exact ⟨first, by simp [actionsSplit]⟩

theorem mem_of_firstAction (isFirst : firstAction status = some first) :
    first ∈ flatActions status.tasks := by
  unfold firstAction at isFirst
  split at isFirst
  · cases isFirst
  · next task _ split =>
    rw [split]
    exact List.mem_flatMap.mpr ⟨task, by simp, List.mem_of_mem_head? isFirst⟩

theorem StandsAt.first_cases {place : Place} (stands : StandsAt status.tasks place)
    (isFirst : firstAction status = some first) :
    (place.before = [] ∧ place.earlier = [] ∧ place.action = first) ∨
      first.state = .success := by
  have inTasks := stands.inTasks
  unfold firstAction at isFirst
  split at isFirst
  · cases isFirst
  · next task _ tasksSplit =>
    have split := inTasks.tasks_eq
    rw [tasksSplit] at split
    cases beforeSplit : place.before with
    | cons head =>
      rw [beforeSplit] at split
      obtain rfl : task = head := (List.cons.inj split).1
      exact Or.inr (stands.before task (by simp [beforeSplit]) first
        (List.mem_of_mem_head? isFirst))
    | nil =>
      rw [beforeSplit] at split
      obtain rfl : task = place.task := (List.cons.inj split).1
      rw [inTasks.actions_eq] at isFirst
      cases earlierSplit : place.earlier with
      | nil =>
        rw [earlierSplit] at isFirst
        exact Or.inl ⟨rfl, rfl, Option.some.inj isFirst⟩
      | cons head =>
        rw [earlierSplit] at isFirst
        obtain rfl : head = first := Option.some.inj isFirst
        exact Or.inr (stands.earlier head (by simp [earlierSplit]))

theorem eq_of_sameID {tasks : List Task} {second : Action} (distinct : DistinctIDs tasks)
    (firstIn : first ∈ flatActions tasks) (secondIn : second ∈ flatActions tasks)
    (sameID : first.id = second.id) :
    first = second :=
  List.inj_on_of_nodup_map distinct.2 firstIn secondIn sameID

/-- Some action has a start time on record. -/
def SomeStarted (tasks : List Task) : Prop :=
  ∃ action ∈ flatActions tasks, action.executionStart ≠ none

instance (tasks : List Task) : Decidable (SomeStarted tasks) := by
  unfold SomeStarted
  infer_instance

def IsServed (world : World) (agentID : String) : Prop :=
  match (world.agents agentID).call with
  | some ⟨.getAction, _⟩ =>
    (doGetAction agentID (listWorkflows agentID world.stored.value)).isOk = true
  | _ => False

instance (world : World) (agentID : String) : Decidable (IsServed world agentID) := by
  unfold IsServed
  split <;> infer_instance

/-- A SUCCESS report carries a start time, and an action is handed out after the
first one succeeded only if the deadline is set. -/
def ArmsInTime (world : World) : Label → Prop
  | .report _ state details =>
    state = .success → details.executionStart ≠ some zeroTime
  | .write agentID =>
    IsServed world agentID → ∀ first ∈ firstAction world.status,
      first.state = .success → world.status.globalExecutionStop ≠ none
  | _ => True

instance (world : World) (label : Label) : Decidable (ArmsInTime world label) := by
  unfold ArmsInTime
  split <;> infer_instance

structure AwaitsDeadline (status : WorkflowStatus) (first : Action) : Prop where
  others : ∀ action ∈ flatActions status.tasks, action.id ≠ first.id →
    action.executionStart = none
  named : first.executionStart ≠ none → ∃ currentState,
    status.currentState = some currentState ∧ currentState.actionID = first.id
  started : first.state = .success → first.executionStart ≠ none

/-- Once a deadline is set it stays set, and a reconcile that reads a running
workflow with a start time on record sets it. -/
structure Arms (reconciled : Reconciled) : Prop where
  kept : reconciled.original.globalExecutionStop ≠ none →
    reconciled.updated.globalExecutionStop ≠ none
  set : reconciled.original.state = .running → SomeStarted reconciled.original.tasks →
    reconciled.updated.globalExecutionStop ≠ none

structure Deadline (wf : Workflow) (shape : List (String × String × List String))
    (world : World) : Prop where
  execution : Execution wf shape world
  hasFirst : StartsWithAction shape
  timed : ∀ agentID call request, (world.agents agentID).call = some call →
    call.request = .report request → request.actionState = .success →
      request.executionStart ≠ some zeroTime
  awaits : world.status.globalExecutionStop = none → ∀ first,
    firstAction world.status = some first → AwaitsDeadline world.status first
  arms : ∀ reconciled, world.controller = some reconciled → Arms reconciled

variable {ids : IdSource} {request : ActionStatusRequest} {reconciled : Reconciled}

private theorem deadline_start (wf : Workflow) (cluster : Cluster)
    (distinct : DistinctIDs (yamlToStatus ids definition).tasks)
    (hasFirst : StartsWithAction (layout (yamlToStatus ids definition).tasks)) :
    Deadline (readyWorkflow wf ids definition)
      (layout (yamlToStatus ids definition).tasks)
      (World.start (readyWorkflow wf ids definition) cluster) where
  execution := execution_start wf cluster distinct
  hasFirst
  timed := by
    intro agentID call request inFlight
    cases inFlight
  awaits := by
    intro _ first isFirst
    have untouched := mem_flatActions_yamlToStatus (mem_of_firstAction isFirst)
    refine ⟨?_, ?_, ?_⟩
    · intro action member _
      exact (mem_flatActions_yamlToStatus member).2
    · intro started
      exact absurd untouched.2 started
    · intro succeeded
      rw [untouched.1] at succeeded
      cases succeeded
  arms := by
    intro reconciled pending
    cases pending

section Steps

variable {wf : Workflow} {shape : List (String × String × List String)} {world : World}

theorem Deadline.exists_first (deadline : Deadline wf shape world) :
    ∃ first, firstAction world.status = some first := by
  apply exists_firstAction
  rw [deadline.execution.layout_eq]
  exact deadline.hasFirst

variable {agentID : String} {first : Action}

variable {place : Place} {call : Call} {reconciled : Reconciled}

theorem Deadline.holdsFirst (deadline : Deadline wf shape world)
    (unset : world.status.globalExecutionStop = none) {holding : Holding}
    (holds : HoldsPlace world.status agentID holding place)
    (isFirst : firstAction world.status = some first) :
    place.before = [] ∧ place.earlier = [] ∧ place.action = first := by
  rcases holds.stands.first_cases isFirst with isPlace | succeeded
  · exact isPlace
  · have awaits := deadline.awaits unset first isFirst
    obtain ⟨currentState, isCurrent, named⟩ := awaits.named (awaits.started succeeded)
    obtain ⟨pointing, isPointing, points⟩ := holds.points
    obtain rfl : currentState = pointing :=
      Option.some.inj (isCurrent.symm.trans isPointing)
    have inTasks : place.action ∈ flatActions world.status.tasks := by
      rw [flatActions_split holds.stands.inTasks]
      simp
    have same := eq_of_sameID deadline.execution.ordered.distinct
      (mem_of_firstAction isFirst) inTasks (named.symm.trans points.action)
    rw [same] at succeeded
    exact absurd succeeded holds.stands.notSucceeded

private theorem reportedTime_ne_none {timestamp : Option Time}
    (isTime : timestamp ≠ some zeroTime) : reportedTime timestamp ≠ none := by
  unfold reportedTime storedTime
  split
  · next isZero =>
    cases timestamp with
    | none =>
      exact absurd isZero (by decide)
    | some => exact absurd (congrArg some isZero) isTime
  · simp

theorem AwaitsDeadline.reported (awaits : AwaitsDeadline status place.action)
    (inTasks : place.In status.tasks) (before : place.before = []) (earlier : place.earlier = [])
    (isFor : IsFor request place)
    (timed : request.actionState = .success → request.executionStart ≠ some zeroTime)
    (isFirst : firstAction (reportedStatus request place status) = some first) :
    AwaitsDeadline (reportedStatus request place status) first := by
  obtain rfl : applyReport request place.action = first := by
    simpa [firstAction, reportedStatus, Place.replace, before, earlier] using isFirst
  refine ⟨?_, ?_, ?_⟩
  · intro action member different
    refine awaits.others action ?_ different
    rw [flatActions_split inTasks, before, earlier]
    have inReplaced : action = applyReport request place.action ∨
        action ∈ place.later ++ flatActions place.after := by
      rw [reportedStatus, Place.flatActions_replace, before, earlier] at member
      simpa [flatActions] using member
    rcases inReplaced with rfl | inRest
    · exact absurd rfl different
    · exact List.mem_append_right _ (List.mem_cons_of_mem _ inRest)
  · intro _
    exact ⟨_, rfl, isFor.action⟩
  · intro succeeded
    exact reportedTime_ne_none (timed (StateType.eq_success_of_workflowState succeeded))

private theorem isServed_of_ok {holding : Option Holding} {answer : Workflow × Option Holding}
    (inFlight : (world.agents agentID).call = some call) (isAsk : call.request = .getAction)
    (attempted : attempt agentID holding world.stored.value .getAction = .ok answer) :
    IsServed world agentID := by
  obtain ⟨_, _⟩ := call
  subst isAsk
  rw [IsServed, inFlight]
  simp only [attempt] at attempted
  split at attempted
  · cases attempted
  · next served =>
    rw [served]
    rfl

theorem Deadline.accept (deadline : Deadline wf shape world) {written : Workflow}
    {left : Option Holding}
    (inTime : ArmsInTime world (.write agentID))
    (inFlight : (world.agents agentID).call = some call)
    (attempted : attempt agentID (world.agents agentID).holding world.stored.value
      call.request = .ok (written, left)) :
    Deadline wf shape (world.accept agentID (world.stored.put written) left) := by
  have attempts := attempts_of_ok attempted
  have status : (world.accept agentID (world.stored.put written) left).status =
      written.status := by simp [World.status]
  have sameStop : written.status.globalExecutionStop = world.status.globalExecutionStop :=
    attempts.written_eq.2.globalExecutionStop
  refine ⟨deadline.execution.accept inFlight attempts, deadline.hasFirst, ?_, ?_, deadline.arms⟩
  · intro other otherCall request otherInFlight isReport
    rw [agents_accept_of_inFlight otherInFlight] at otherInFlight
    exact deadline.timed other otherCall request otherInFlight isReport
  · rw [status, sameStop]
    intro unset first isFirst
    generalize isRequest : call.request = request at attempts
    cases attempts with
    | served _ serves =>
      obtain ⟨_, served⟩ := deadline.execution.ordered.serves serves
      have awaits := deadline.awaits unset first isFirst
      rcases served.stands.first_cases isFirst with isPlace | succeeded
      · refine { awaits with named := fun _ => ⟨_, rfl, ?_⟩ }
        rw [servedState, served.action_eq, isPlace.2.2]
      · rw [isRequest] at attempted
        exact absurd unset (inTime (isServed_of_ok inFlight isRequest attempted) first
          isFirst succeeded)
    | @reported report located isLocated =>
      obtain ⟨_, place, _, holds, isFor, _⟩ :=
        deadline.execution.reportsOn inFlight isRequest
      have inTasks := holds.stands.inTasks
      obtain rfl : located = place := by
        have found := locate_of_isFor deadline.execution.ordered.distinct inTasks isFor
        exact Option.some.inj (isLocated.symm.trans found)
      obtain ⟨_, wasIsFirst⟩ := deadline.exists_first
      obtain ⟨before, earlier, rfl⟩ := deadline.holdsFirst unset holds wasIsFirst
      exact (deadline.awaits unset _ wasIsFirst).reported inTasks before earlier isFor
        (deadline.timed agentID call report inFlight isRequest) isFirst

private theorem globalExecutionStop_of_reconciles {replies : Replies}
    (reconciles : Reconciles replies cluster stored reconciled) :
    reconciled.updated.globalExecutionStop = stored.status.globalExecutionStop ∨
      reconciled.updated.globalExecutionStop ≠ none := by
  cases reconciles with
  | idle => exact Or.inl rfl
  | preparing =>
    have status := status_ofWorks (works_prepareWorkflow replies ⟨stored, cluster, []⟩)
    have stop := congrArg WorkflowStatus.globalExecutionStop status
    exact Or.inl stop
  | running _ reconciles =>
    cases reconciles with
    | timedOut | heldBack => exact Or.inl rfl
    | armed => exact Or.inr (by simp)
    | handedOver =>
      rw [updateAgentIDIfNeeded_eq]
      exact Or.inl rfl
  | post =>
    have status := status_ofWorks (works_postActions replies ⟨stored, cluster, []⟩)
    have stop := congrArg WorkflowStatus.globalExecutionStop status
    exact Or.inl stop

private theorem globalExecutionStop_reconcileRunning {now : Time}
    (arming : armingAction status = some first) (started : first.executionStart ≠ none) :
    (reconcileRunning now status).1.globalExecutionStop ≠ none := by
  have armingUpdated : armingAction (updateAgentIDIfNeeded status) = some first := by
    rw [updateAgentIDIfNeeded_eq]
    exact arming
  have reconciles := reconcilesRunning_reconcileRunning now status
  generalize (reconcileRunning now status).1 = updated at reconciles
  cases reconciles with
  | timedOut passed =>
    intro unset
    rw [deadlinePassed, unset] at passed
    cases passed
  | heldBack _ otherArming notStarted =>
    obtain rfl := Option.some.inj (armingUpdated.symm.trans otherArming)
    exact absurd notStarted started
  | armed => simp
  | handedOver _ notArming =>
    rw [armingUpdated] at notArming
    cases notArming

theorem Deadline.arms_reconcile (deadline : Deadline wf shape world)
    (notDeleted : wf.deletionTimestamp = none) (replies : Replies) :
    Arms (reconcile replies world.cluster world.stored.value) := by
  have execution := deadline.execution
  have notNew : world.status.state ≠ .unset := fun isNew => execution.started (Or.inl isNew)
  have stop := globalExecutionStop_of_reconciles
    (reconciles_reconcile replies world.cluster notNew execution.lifecycle.notLegacy)
  have kept : world.status.globalExecutionStop ≠ none →
      (reconcile replies world.cluster world.stored.value).updated.globalExecutionStop ≠
        none := by
    intro isSet
    rcases stop with same | set
    · rw [same]
      exact isSet
    · exact set
  constructor
  · rw [reconcile_original]
    exact kept
  · rw [reconcile_original]
    rintro isRunning ⟨action, member, started⟩
    by_cases unset : world.status.globalExecutionStop = none
    · obtain ⟨first, isFirst⟩ := deadline.exists_first
      have awaits := deadline.awaits unset first isFirst
      have sameID : action.id = first.id := by
        by_contra different
        exact started (awaits.others action member different)
      obtain rfl : action = first :=
        eq_of_sameID execution.ordered.distinct member (mem_of_firstAction isFirst) sameID
      obtain ⟨_, isCurrent, named⟩ := awaits.named started
      have arming : armingAction world.status = some action := by
        simp [armingAction, unset, isFirst, isCurrent, named]
      have deletion : world.stored.value.deletionTimestamp = none := by
        rw [execution.lifecycle.identity]
        exact notDeleted
      have updated : (reconcile replies world.cluster world.stored.value).updated =
          (reconcileRunning replies.now world.status).1 := by
        simp [reconcile, deletion, isRunning]
      rw [updated]
      exact globalExecutionStop_reconcileRunning arming started
    · exact kept unset

theorem Deadline.patch (deadline : Deadline wf shape world)
    (pending : world.controller = some reconciled) (reply : WriteReply) :
    Deadline wf shape (world.applyPatch reconciled reply) := by
  have execution := deadline.execution
  have kept := (deadline.arms reconciled pending).kept
  have same := (execution.lifecycle.outstanding reconciled pending).same
  have sameStop := same.globalExecutionStop
  obtain ⟨_, _, tasks, currentState⟩ :=
    execution.lifecycle.patched_started execution.started pending reply
  refine ⟨(inductive_execution wf shape).patch world reply reconciled execution trivial
    pending, deadline.hasFirst, deadline.timed, ?_, ?_⟩
  · intro unset first isFirst
    have wasUnset : world.status.globalExecutionStop = none := by
      rcases execution.lifecycle.patch_cases pending reply with same | written
      · rw [← same]
        exact unset
      · rw [written.globalExecutionStop] at unset
        by_contra wasSet
        rw [← sameStop] at wasSet
        exact kept wasSet unset
    have wasFirst : firstAction world.status = some first := by
      unfold firstAction at isFirst ⊢
      rw [← tasks]
      exact isFirst
    have awaits := deadline.awaits wasUnset first wasFirst
    refine ⟨?_, ?_, awaits.started⟩
    · rw [tasks]
      exact awaits.others
    · rw [currentState]
      exact awaits.named
  · intro other impossible
    cases impossible

end Steps

private theorem inductive_deadline {wf : Workflow} (notDeleted : wf.deletionTimestamp = none)
    (shape : List (String × String × List String)) :
    Inductive ArmsInTime (Deadline wf shape) where
  prepare world label agentID agent deadline inTime prepares := by
    refine { deadline with
      execution := deadline.execution.prepare prepares
      timed := ?_ }
    intro other call request inFlight isReport
    rw [agents_setAgent] at inFlight
    split at inFlight
    · cases prepares with
      | ask =>
        cases inFlight
        cases isReport
      | report =>
        cases inFlight
        cases isReport
        exact inTime
      | setRead _ was =>
        cases inFlight
        exact deadline.timed agentID _ request was isReport
    · exact deadline.timed other call request inFlight isReport
  accept world agentID call written holding deadline inTime inFlight attempted :=
    deadline.accept inTime inFlight attempted
  beginReconcile world replies deadline _ :=
    { deadline with
      execution := (inductive_execution wf shape).beginReconcile world replies
        deadline.execution trivial
      arms := by
        intro reconciled pending
        cases pending
        exact deadline.arms_reconcile notDeleted replies }
  patch world reply reconciled deadline _ pending := deadline.patch pending reply
  job world event deadline _ :=
    { deadline with
      execution := (inductive_execution wf shape).job world event deadline.execution
        trivial }

/-- The first task of a definition has an action. -/
def FirstTaskHasActions (definition : Template.Workflow) : Prop :=
  ∃ task rest, definition.tasks = task :: rest ∧ task.actions ≠ []

private theorem startsWithAction_yamlToStatus (ids : IdSource)
    (hasActions : FirstTaskHasActions definition) :
    StartsWithAction (layout (yamlToStatus ids definition).tasks) := by
  obtain ⟨task, _, tasks, notEmpty⟩ := hasActions
  cases actions : task.actions with
  | nil => exact absurd actions notEmpty
  | cons =>
    simp only [StartsWithAction, layout, yamlToStatus, tasks, List.mapIdx_cons,
      List.map_cons, taskShape, Template.convertTask, actions]
    exact ⟨_, _, _, _, _, rfl⟩

private theorem deadline_run {wf : Workflow} {labels : List Label}
    (distinct : DistinctIDs (yamlToStatus ids definition).tasks)
    (notDeleted : wf.deletionTimestamp = none)
    (hasActions : FirstTaskHasActions definition)
    (inTime : Meets step ArmsInTime
      (World.start (readyWorkflow wf ids definition) cluster) labels) :
    Deadline (readyWorkflow wf ids definition)
      (layout (yamlToStatus ids definition).tasks)
      (run step (World.start (readyWorkflow wf ids definition) cluster) labels) :=
  have hasFirst := startsWithAction_yamlToStatus ids hasActions
  have keeps := inductive_deadline (show (readyWorkflow wf ids definition).deletionTimestamp
    = none from notDeleted) (layout (yamlToStatus ids definition).tasks)
  keeps.run (coherentReads_start _ cluster) (deadline_start wf cluster distinct hasFirst)
    inTime

/-- In a run in which no action is handed out between the success of the first
action and the setting of the deadline, every reconcile that read a running
workflow with a start time on record leaves a deadline. -/
theorem deadline_armed (wf : Workflow) (ids : IdSource)
    (definition : Template.Workflow) (cluster : Cluster) (labels : List Label)
    (reconciled : Reconciled) (reply : WriteReply)
    (distinct : DistinctIDs (yamlToStatus ids definition).tasks)
    (notDeleted : wf.deletionTimestamp = none)
    (hasActions : FirstTaskHasActions definition)
    (inTime : Meets step ArmsInTime
      (World.start (readyWorkflow wf ids definition) cluster) labels) :
    let world := run step (World.start (readyWorkflow wf ids definition) cluster) labels
    world.controller = some reconciled →
    reconciled.original.state = .running →
    SomeStarted reconciled.original.tasks →
    reply.TookEffect →
    (step world (.patch reply)).status.globalExecutionStop ≠ none := by
  intro world pending isRunning started tookEffect
  have deadline := deadline_run distinct notDeleted hasActions inTime
  have written := deadline.execution.lifecycle.patched pending tookEffect
  rw [step_patch pending, written.globalExecutionStop]
  exact (deadline.arms reconciled pending).set isRunning started

/-- The reconcile reads the workflow right after the first action is done. -/
theorem deadline_armed_twoActions :
    let world := run step
      (World.start (readyWorkflow sampleWorkflow listedIds twoActions) emptyCluster)
      (runAction "agent-a" ++ [.beginReconcile (sampleReplies (2 * second) "")])
    (step world (.patch .done)).status.globalExecutionStop ≠ none := by
  have armed := deadline_armed sampleWorkflow listedIds twoActions emptyCluster
    (runAction "agent-a" ++ [.beginReconcile (sampleReplies (2 * second) "")])
    (reconcile (sampleReplies (2 * second) "") emptyCluster (run step
      (World.start (readyWorkflow sampleWorkflow listedIds twoActions) emptyCluster)
      (runAction "agent-a")).stored.value)
    .done (by decide) rfl ⟨_, _, rfl, by decide⟩ (by decide)
  exact armed rfl (by decide) (by decide) trivial

/-- The second action is handed out before the controller sees the first one
done: no reconcile sets the deadline any more. -/
theorem deadline_missed :
    let world := run step
      (World.start (readyWorkflow sampleWorkflow listedIds twoActions) emptyCluster)
      (runAction "agent-a" ++ .ask "agent-a" :: callAlone "agent-a")
    0 < twoActions.globalTimeout ∧
      Template.validate (fun _ => none) twoActions = none ∧
      DistinctIDs (yamlToStatus listedIds twoActions).tasks ∧
      world.status.state = .running ∧
      SomeStarted world.status.tasks ∧
      (reconcileAtomically world (sampleReplies (2 * second) "")
        .done).status.globalExecutionStop = none := by
  decide

structure CompletionInFlight (world : World) (agentID : String)
    (request : ActionStatusRequest) : Prop where
  inFlight : ∃ call ∈ (world.agents agentID).call, call.request = .report request
  succeeds : request.actionState = .success
  isLast : ∃ place ∈ locate request.actionId request.agentId world.status.tasks,
    place.isLast

/-- The call of one agent is read or written. -/
def OfCall (agentID : String) (label : Label) : Prop :=
  label = .read agentID ∨ label = .write agentID

/-- Between the read and the patch of a reconcile the report is either still in
flight and nothing changed, or it was accepted and completed the workflow. -/
structure Racing (agentID : String) (request : ActionStatusRequest) (stored : Workflow)
    (reconciled : Reconciled) (world : World) : Prop where
  coherent : CoherentReads world
  pending : world.controller = some reconciled
  outcome : (world.stored.value = stored ∧ CompletionInFlight world agentID request) ∨
    ((world.agents agentID).call = none ∧ world.status.state = .post)

theorem Racing.setRead {agentID : String} {world : World}
    (racing : Racing agentID request stored reconciled world) {read : Option (Versioned Workflow)}
    (coherent : CoherentReads (world.setRead agentID read)) :
    Racing agentID request stored reconciled (world.setRead agentID read) := by
  refine ⟨coherent, ?_, ?_⟩
  · rw [World.setRead]
    split
    · exact racing.pending
    · exact racing.pending
  · rcases racing.outcome with ⟨same, completion⟩ | ⟨answered, isPost⟩
    · obtain ⟨call, inFlight, isReport⟩ := completion.inFlight
      rw [World.setRead, inFlight]
      refine Or.inl ⟨same, ⟨{ call with read }, ?_, isReport⟩,
        completion.succeeds, completion.isLast⟩
      simp
    · rw [World.setRead, answered]
      exact Or.inr ⟨answered, isPost⟩

theorem Racing.step {agentID : String} {world : World} {label : Label}
    (racing : Racing agentID request stored reconciled world) (ofCall : OfCall agentID label) :
    Racing agentID request stored reconciled (step world label) := by
  have coherent := coherentReads_step label racing.coherent
  rcases ofCall with rfl | rfl
  · exact racing.setRead coherent
  · change CoherentReads (world.write agentID) at coherent
    change Racing agentID request stored reconciled (world.write agentID)
    rcases world.write_cases agentID racing.coherent with same | dropped | accepted
    · rw [same]
      exact racing
    · rw [dropped] at coherent ⊢
      exact racing.setRead coherent
    · obtain ⟨call, _, _, inFlight, attempted, isAccepted⟩ := accepted
      rw [isAccepted] at coherent ⊢
      refine ⟨coherent, racing.pending, Or.inr ⟨by simp, ?_⟩⟩
      rcases racing.outcome with ⟨_, completion⟩ | ⟨answered, _⟩
      · obtain ⟨other, otherInFlight, isReport⟩ := completion.inFlight
        obtain rfl : call = other := Option.some.inj (inFlight.symm.trans otherInFlight)
        obtain ⟨place, isLocated, isLast⟩ := completion.isLast
        have attempts := attempts_of_ok attempted
        rw [isReport] at attempts
        cases attempts with
        | @reported _ located found =>
          obtain rfl : located = place := Option.some.inj (found.symm.trans isLocated)
          simp [World.status, reportedStatus, reportedState, isLast, completion.succeeds]
      · rw [answered] at inFlight
        cases inFlight

private theorem reconcile_state_of_running (replies : Replies) (cluster : Cluster)
    (isRunning : stored.status.state = .running) :
    (reconcile replies cluster stored).updated.state =
      if stored.deletionTimestamp = none ∧ deadlinePassed replies.now stored.status = true
      then .timeout else .running := by
  by_cases deleted : stored.deletionTimestamp = none
  · have updated : (reconcile replies cluster stored).updated =
        (reconcileRunning replies.now stored.status).1 := by
      simp [reconcile, deleted, isRunning]
    have reconciles := reconcilesRunning_reconcileRunning replies.now stored.status
    rw [updated]
    by_cases passed : deadlinePassed replies.now stored.status = true
    · simp [reconcileRunning, passed, deleted]
    · rcases reconciles.state with same | timedOut
      · rw [same, isRunning, if_neg (by simp [passed])]
      · exact absurd timedOut.2 passed
  · simp [reconcile, deleted, Reconciled.idle, isRunning]

/-- A completion accepted between the read and the patch of a reconcile survives
the patch exactly when the reconcile did not find the deadline passed, or its
patch does not take effect. -/
theorem completion_kept_iff (world : World) (agentID : String)
    (request : ActionStatusRequest) (replies : Replies) (labels : List Label)
    (reply : WriteReply) (coherent : CoherentReads world)
    (isRunning : world.status.state = .running)
    (completion : CompletionInFlight world agentID request)
    (ofCall : ∀ label ∈ labels, OfCall agentID label) :
    let accepted := run step (step world (.beginReconcile replies)) labels
    (accepted.agents agentID).call = none →
    ((step accepted (.patch reply)).status.state ≠ .timeout ↔
      ¬(world.stored.value.deletionTimestamp = none ∧
        deadlinePassed replies.now world.status = true ∧ reply.TookEffect)) := by
  intro accepted answered
  have racing : Racing agentID request world.stored.value
      (reconcile replies world.cluster world.stored.value) accepted :=
    run_invariant (fun state label holds ofCall => holds.step ofCall)
      ⟨coherent, rfl, Or.inl ⟨rfl, completion.inFlight, completion.succeeds,
        completion.isLast⟩⟩ (meets_of_forall ofCall)
  have isPost : accepted.status.state = .post := by
    rcases racing.outcome with ⟨_, stillInFlight⟩ | ⟨_, isPost⟩
    · obtain ⟨_, inFlight, _⟩ := stillInFlight.inFlight
      rw [answered] at inFlight
      cases inFlight
    · exact isPost
  rw [step_patch racing.pending, status_applyPatch, state_mergePatchStatus, isPost,
    reconcile_original, isRunning, reconcile_state_of_running replies _ isRunning]
  by_cases tookEffect : reply.TookEffect
  · by_cases timesOut : world.stored.value.deletionTimestamp = none ∧
        deadlinePassed replies.now world.status = true
    · simp [tookEffect, timesOut, MergePatch.mergeField]
    · simp [tookEffect, timesOut, MergePatch.mergeField]
  · simp [tookEffect]

def almostDone : World :=
  run step (World.start (readyWorkflow sampleWorkflow listedIds twoActions) emptyCluster)
    (runAction "agent-a" ++ reconcileAlone (2 * second) "" ++ startAction "agent-a" ++
      [.report "agent-a" .success { executionStart := some second }])

def installDone : ActionStatusRequest where
  workflowId := "tink/sample"
  agentId := "agent-a"
  taskId := "task-0"
  actionId := "action-0-1"
  actionName := "install"
  actionState := .success
  executionStart := some second

theorem completionInFlight_almostDone : CompletionInFlight almostDone "agent-a" installDone :=
  ⟨by decide, rfl, by decide⟩

/-- In time: the completion stands. -/
theorem completion_kept_iff_almostDone :
    let accepted := run step
      (step almostDone (.beginReconcile (sampleReplies (100 * second) "")))
      (callAlone "agent-a")
    ((step accepted (.patch .done)).status.state ≠ .timeout ↔
      ¬(almostDone.stored.value.deletionTimestamp = none ∧
        deadlinePassed (100 * second) almostDone.status = true ∧
        WriteReply.done.TookEffect)) :=
  completion_kept_iff almostDone "agent-a" installDone
    (sampleReplies (100 * second) "") (callAlone "agent-a") .done
    (coherentReads_run _ _ _) (by decide) completionInFlight_almostDone
    (by simp [callAlone, OfCall]) (by decide)

/-- The completion is accepted after the read of a reconcile that finds the
deadline passed, and the patch overwrites it. -/
theorem completion_lost :
    let accepted := run step
      (step almostDone (.beginReconcile (sampleReplies (1000 * second) "")))
      (callAlone "agent-a")
    almostDone.status.state = .running ∧
      (accepted.agents "agent-a").call.isNone ∧
      accepted.status.state = .post ∧
      (step accepted (.patch .done)).status.state = .timeout := by
  decide

end Tinkerbell.System

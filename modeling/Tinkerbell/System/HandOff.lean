import Tinkerbell.System.Order

/-!
Owns: which agent can find the workflow. The server serves from the first task
that is not successful; the controller moves `AgentID` on when the task right
behind the finished one is about to start. The two agree unless a task without
actions stands between, or the controller waits for the first start time.
-/

namespace Tinkerbell.System

open Api Server Controller TransitionSystem
open Template (IdSource yamlToStatus DistinctIDs)

variable {before tasks : List Task} {task previous : Task} {place : Place} {status : WorkflowStatus}
  {currentState : CurrentState}

private theorem currentAndNext_append (after : List Task)
    (absent : ∀ other ∈ before, other.id ≠ task.id) :
    currentAndNext task.id (before ++ task :: after) = some (task, after.head?) := by
  induction before with
  | nil => simp [currentAndNext]
  | cons head rest ih =>
    have headDifferent : head.id ≠ task.id := absent head (by simp)
    have restAbsent : ∀ other ∈ rest, other.id ≠ task.id := by
      intro other member
      exact absent other (List.mem_cons_of_mem head member)
    simp [currentAndNext, headDifferent, ih restAbsent]

variable {after : List Task}

section

variable (distinct : DistinctIDs tasks)
include distinct

theorem absent_before (split : tasks = before ++ task :: after) :
    ∀ other ∈ before, other.id ≠ task.id := by
  have nodup := distinct.1
  rw [split, List.map_append] at nodup
  have parts := List.nodup_append.mp nodup
  intro other member
  exact parts.2.2 other.id (List.mem_map_of_mem member) task.id (by simp)

theorem currentAndNext_of_split
    (split : tasks = before ++ task :: after) :
    currentAndNext task.id tasks = some (task, after.head?) := by
  rw [split]
  exact currentAndNext_append after (absent_before distinct split)

private theorem task_eq_of_id {first second : Task} (left : first ∈ tasks)
    (right : second ∈ tasks) (same : first.id = second.id) : first = second :=
  List.inj_on_of_nodup_map distinct.1 left right same

end

private theorem mem_of_in (inTasks : place.In tasks) : place.task ∈ tasks := by
  rw [inTasks.tasks_eq]
  simp

structure MovedOn (status : WorkflowStatus) (place : Place)
    (currentState : CurrentState) (before : List Task) (previous : Task) : Prop where
  stands : StandsAt status.tasks place
  isCurrent : status.currentState = some currentState
  succeeded : currentState.state = .success
  pending : place.action.state = .pending
  first : place.earlier = []
  adjacent : place.before = before ++ [previous]
  hasActions : previous.actions ≠ []
  isPrevious : currentState.taskID = previous.id

section

variable (moved : MovedOn status place currentState before previous)
include moved

theorem MovedOn.tasks_eq :
    status.tasks = before ++ previous :: place.task :: place.after := by
  rw [moved.stands.inTasks.tasks_eq, moved.adjacent]
  simp

theorem MovedOn.different
    (distinct : DistinctIDs status.tasks) : currentState.taskID ≠ place.task.id := by
  rw [moved.isPrevious]
  apply absent_before distinct moved.stands.inTasks.tasks_eq
  rw [moved.adjacent]
  simp

theorem agentID_of_movedOn
    (distinct : DistinctIDs status.tasks) :
    (updateAgentIDIfNeeded status).agentID = place.task.agentID := by
  have found : currentAndNext currentState.taskID status.tasks =
      some (previous, some place.task) := by
    rw [moved.isPrevious]
    exact currentAndNext_of_split distinct moved.tasks_eq
  have complete : taskComplete previous = true := by
    unfold taskComplete
    rw [List.all_eq_true]
    intro action member
    have inBefore : previous ∈ place.before := by
      rw [moved.adjacent]
      simp
    simp [moved.stands.before previous inBefore action member]
  have starts : startsPending place.task = true := by
    unfold startsPending
    rw [moved.stands.inTasks.actions_eq, moved.first]
    simp [moved.pending]
  unfold updateAgentIDIfNeeded
  simp only [moved.isCurrent, found, complete, starts, true_and]
  split
  · rfl
  · next same => simpa using same

end

private theorem next_mem_of_currentAndNext {taskID : String} {current next : Task}
    (found : currentAndNext taskID tasks = some (current, some next)) : next ∈ tasks := by
  induction tasks with
  | nil => cases found
  | cons head rest ih =>
    unfold currentAndNext at found
    split at found
    · have isNext : rest.head? = some next := by
        have pair := Option.some.inj found
        exact (Prod.mk.inj pair).2
      exact List.mem_cons_of_mem head (List.mem_of_mem_head? isNext)
    · exact List.mem_cons_of_mem head (ih found)

theorem exists_of_changed (changed : (updateAgentIDIfNeeded status).agentID ≠ status.agentID) :
    ∃ currentState current next, status.currentState = some currentState ∧
      currentAndNext currentState.taskID status.tasks = some (current, some next) ∧
      taskComplete current = true ∧ startsPending next = true := by
  unfold updateAgentIDIfNeeded at changed
  split at changed
  · exact absurd rfl changed
  · next currentState isCurrent =>
    split at changed
    · next current next found =>
      split at changed
      · next ready =>
        exact ⟨currentState, current, next, isCurrent, found, ready.1, ready.2.1⟩
      · exact absurd rfl changed
    · exact absurd rfl changed

theorem movedOn_of_changed (ordered : Ordered status)
    (changed : (updateAgentIDIfNeeded status).agentID ≠ status.agentID) :
    ∃ place currentState before previous, MovedOn status place currentState before previous := by
  obtain ⟨currentState, current, next, isCurrent, found, complete, starts⟩ :=
    exists_of_changed changed
  have distinct := ordered.distinct
  have notAtTask : ∀ place, StandsAt status.tasks place →
      currentState.taskID ≠ place.task.id := by
    intro place stands same
    have inTasks := stands.inTasks
    rw [same, currentAndNext_of_split distinct inTasks.tasks_eq] at found
    obtain rfl : place.task = current := (Prod.mk.inj (Option.some.inj found)).1
    unfold taskComplete at complete
    rw [List.all_eq_true] at complete
    have succeeded := complete place.action (by rw [inTasks.actions_eq]; simp)
    exact stands.notSucceeded (by simpa using succeeded)
  have progress := ordered.progress
  rw [isCurrent] at progress
  cases progress with
  | finished all =>
    unfold startsPending at starts
    split at starts
    · cases starts
    · next first _ actions =>
      have succeeded := currentPlace_eq_none_iff.mp all next
        (next_mem_of_currentAndNext found) first (by simp [actions])
      rw [succeeded] at starts
      cases starts
  | @standing place stands points =>
    cases points with
    | onAction isTask => exact absurd isTask (notAtTask place stands)
    | behind state pending last =>
      cases last with
      | sameTask _ isTask => exact absurd isTask.symm (notAtTask place stands)
      | @earlierTask before skipped previous _ _ first split empty actions isTask =>
        have tasksSplit : status.tasks =
            before ++ previous :: (skipped ++ place.task :: place.after) := by
          rw [stands.inTasks.tasks_eq, split]
          simp
        rw [← isTask, currentAndNext_of_split distinct tasksSplit] at found
        have isNext := (Prod.mk.inj (Option.some.inj found)).2
        -- A task without actions right behind would not be about to start.
        have noneSkipped : skipped = [] := by
          cases skipped with
          | nil => rfl
          | cons head =>
            obtain rfl : head = next := Option.some.inj isNext
            simp [startsPending, empty head (by simp)] at starts
        subst noneSkipped
        exact ⟨place, currentState, before, previous, stands, isCurrent, state,
          pending, first, split, by simp [actions], isTask.symm⟩

structure HandOff (wf : Workflow) (shape : List (String × String × List String))
    (world : World) : Prop where
  execution : Execution wf shape world
  agent : ∀ place currentState, StandsAt world.status.tasks place →
    world.status.currentState = some currentState →
    currentState.taskID = place.task.id → world.status.agentID = place.task.agentID
  waiting : ∀ reconciled, world.controller = some reconciled →
    reconciled.updated.agentID ≠ reconciled.original.agentID →
    ∃ place currentState before previous,
      MovedOn world.status place currentState before previous ∧
      reconciled.updated.agentID = place.task.agentID

section Steps

variable {wf : Workflow} {shape : List (String × String × List String)} {world : World}

variable {agentID : String} {call : Call} {written : Workflow} {left : Option Holding}
  {reconciled : Reconciled}

section

variable (handOff : HandOff wf shape world)
include handOff

theorem HandOff.not_waiting
    (inFlight : (world.agents agentID).call = some call)
    (attempts : Attempts agentID (world.agents agentID).holding world.stored.value
      call.request written left)
    (pending : world.controller = some reconciled) :
    reconciled.updated.agentID = reconciled.original.agentID := by
  by_contra changed
  have execution := handOff.execution
  obtain ⟨place, currentState, _, _, moved, isNext⟩ :=
    handOff.waiting reconciled pending changed
  have same := (execution.lifecycle.outstanding reconciled pending).same
  generalize isRequest : call.request = request at attempts
  cases attempts with
  | served listed serves =>
    obtain ⟨served, serves⟩ := execution.ordered.serves serves
    obtain rfl : served = place := serves.stands.unique moved.stands
    have stored : reconciled.original.agentID = world.status.agentID := by rw [same]
    rw [stored, isNext, serves.assigned] at changed
    exact changed listed.symm
  | reported =>
    obtain ⟨_, held, _, holds, _⟩ := execution.reportsOn inFlight isRequest
    obtain rfl : held = place := holds.stands.unique moved.stands
    obtain ⟨on, isOn, pointsOn⟩ := holds.points
    obtain rfl : currentState = on := Option.some.inj (moved.isCurrent.symm.trans isOn)
    exact moved.different execution.ordered.distinct pointsOn.task

theorem HandOff.accept
    (inFlight : (world.agents agentID).call = some call)
    (attempts : Attempts agentID (world.agents agentID).holding world.stored.value
      call.request written left) :
    HandOff wf shape (world.accept agentID (world.stored.put written) left) := by
  have execution := handOff.execution
  have next := execution.accept inFlight attempts
  have status : (world.accept agentID (world.stored.put written) left).status =
      written.status := by simp [World.status]
  refine ⟨next, ?_, ?_⟩
  · have nextOrdered := next.ordered
    rw [status] at nextOrdered ⊢
    intro place currentState stands isCurrent atTask
    generalize isRequest : call.request = request at attempts
    cases attempts with
    | served listed serves =>
      obtain ⟨served, serves⟩ := execution.ordered.serves serves
      obtain rfl : served = place := serves.stands.unique stands
      exact listed.trans serves.assigned.symm
    | @reported report located isLocated =>
      obtain ⟨_, held, _, holds, isFor, _⟩ :=
        execution.reportsOn inFlight isRequest
      obtain rfl : located = held := by
        have found := locate_of_isFor execution.ordered.distinct
          holds.stands.inTasks isFor
        exact Option.some.inj (isLocated.symm.trans found)
      obtain ⟨on, isOn, pointsOn⟩ := holds.points
      have agent := handOff.agent located on holds.stands isOn pointsOn.task
      cases isCurrent
      -- The task at hand is still the one the report was for.
      have sameTask : place.task =
          (placeWith located (applyReport report located.action)).task := by
        apply task_eq_of_id nextOrdered.distinct (mem_of_in stands.inTasks)
        · simp [reportedStatus, Place.replace, placeWith]
        · rw [← atTask]
          exact isFor.task
      rw [sameTask]
      exact agent
  · intro reconciled pending changed
    exact absurd (handOff.not_waiting inFlight attempts pending) changed

theorem HandOff.beginReconcile (replies : Replies) :
    HandOff wf shape (world.beginReconcile replies) := by
  have execution := handOff.execution
  refine ⟨(inductive_execution wf shape).beginReconcile world replies execution trivial,
    handOff.agent, ?_⟩
  intro reconciled pending changed
  cases pending
  have notNew : world.status.state ≠ .unset := fun isNew => execution.started (Or.inl isNew)
  have reconciles := reconciles_reconcile replies world.cluster notNew
    execution.lifecycle.notLegacy
  rw [reconcile_original] at changed
  have handedOver : (reconcile replies world.cluster world.stored.value).updated.agentID =
      (updateAgentIDIfNeeded world.status).agentID := by
    rcases reconciles.agentID with same | handedOver
    · exact absurd same changed
    · exact handedOver
  rw [handedOver] at changed
  obtain ⟨place, currentState, before, previous, moved⟩ :=
    movedOn_of_changed execution.ordered changed
  refine ⟨place, currentState, before, previous, moved, ?_⟩
  rw [handedOver]
  exact agentID_of_movedOn moved execution.ordered.distinct

theorem HandOff.patch
    (pending : world.controller = some reconciled) (reply : WriteReply) :
    HandOff wf shape (world.applyPatch reconciled reply) := by
  have execution := handOff.execution
  have outstanding := execution.lifecycle.outstanding reconciled pending
  obtain ⟨_, _, tasks, currentState_eq⟩ :=
    execution.lifecycle.patched_started execution.started pending reply
  refine ⟨(inductive_execution wf shape).patch world reply reconciled execution trivial
    pending, ?_, ?_⟩
  · intro place currentState stands isCurrent atTask
    rw [tasks] at stands
    rw [currentState_eq] at isCurrent
    have agent := handOff.agent place currentState stands isCurrent atTask
    rcases execution.lifecycle.patch_cases pending reply with same | written
    · rw [same]
      exact agent
    · rw [written.agentID]
      by_cases changed : reconciled.updated.agentID = reconciled.original.agentID
      · have same := outstanding.same
        rw [changed, same]
        exact agent
      · obtain ⟨other, _, _, _, moved, _⟩ :=
          handOff.waiting reconciled pending changed
        obtain rfl : other = place := moved.stands.unique stands
        have sameState := Option.some.inj (moved.isCurrent.symm.trans isCurrent)
        subst sameState
        exact absurd atTask (moved.different execution.ordered.distinct)
  · intro other impossible
    cases impossible

end

end Steps

private theorem inductive_handOff (wf : Workflow) (shape : List (String × String × List String)) :
    Inductive (fun _ _ => True) (HandOff wf shape) where
  prepare _ _ _ _ handOff _ prepares :=
    ⟨handOff.execution.prepare prepares, handOff.agent, handOff.waiting⟩
  accept _ _ _ _ _ handOff _ inFlight attempted :=
    handOff.accept inFlight (attempts_of_ok attempted)
  beginReconcile _ replies handOff _ := handOff.beginReconcile replies
  patch _ reply _ handOff _ pending := handOff.patch pending reply
  job world event handOff met :=
    ⟨(inductive_execution wf shape).job world event handOff.execution met,
      handOff.agent, handOff.waiting⟩

private theorem handOff_run (wf : Workflow) {ids : IdSource} {definition : Template.Workflow}
    (cluster : Cluster) (labels : List Label)
    (distinct : DistinctIDs (yamlToStatus ids definition).tasks) :
    HandOff (readyWorkflow wf ids definition)
      (layout (yamlToStatus ids definition).tasks)
      (run step (World.start (readyWorkflow wf ids definition) cluster) labels) := by
  refine (inductive_handOff _ _).run_start
    ⟨execution_start wf cluster distinct, ?_, ?_⟩ labels
  · intro place currentState _ isCurrent
    cases isCurrent
  · intro reconciled pending
    cases pending

/-- The task stands right behind a task with actions. -/
def FollowsActions (task : Task) (tasks : List Task) : Prop :=
  ∃ before previous after, tasks = before ++ previous :: task :: after ∧
    previous.actions ≠ []

def HeldBack (status : WorkflowStatus) : Prop :=
  ∃ first, armingAction status = some first ∧ first.executionStart = none

theorem armingAction_updateAgentIDIfNeeded (status : WorkflowStatus) :
    armingAction (updateAgentIDIfNeeded status) = armingAction status := by
  rw [updateAgentIDIfNeeded_eq]
  rfl

private theorem standing_of_find? (ordered : Ordered status)
    (isNext : status.tasks.find? (fun task => !isTaskSuccessful task) = some task) :
    ∃ place, StandsAt status.tasks place ∧ PointsAt place status.currentState ∧
      place.task = task := by
  cases ordered.progress with
  | finished all =>
    have member := List.mem_of_find?_eq_some isNext
    have unsuccessful := List.find?_some isNext
    have succeeded := isTaskSuccessful_of_all (currentPlace_eq_none_iff.mp all task member)
    rw [succeeded] at unsuccessful
    cases unsuccessful
  | @standing place stands points =>
    have isPlace := stands.find?_eq
    rw [isPlace] at isNext
    exact ⟨place, stands, points, Option.some.inj isNext⟩

private theorem before_of_followsActions (distinct : DistinctIDs tasks) (inTasks : place.In tasks)
    (follows : FollowsActions place.task tasks) :
    ∃ before previous, place.before = before ++ [previous] ∧ previous.actions ≠ [] := by
  obtain ⟨before, previous, after, split, hasActions⟩ := follows
  refine ⟨before, previous, ?_, hasActions⟩
  have shifted : tasks = (before ++ [previous]) ++ place.task :: after := by
    rw [split]
    simp
  have nodup := List.Nodup.of_map Task.id distinct.1
  have notAround := List.nodup_cons.mp (List.nodup_middle.mp (inTasks.tasks_eq ▸ nodup))
  have absent := notAround.1
  rw [List.mem_append, not_or] at absent
  have same : place.before ++ place.task :: place.after =
      (before ++ [previous]) ++ place.task :: after :=
    inTasks.tasks_eq.symm.trans shifted
  exact ((List.append_cons_inj_of_notMem absent.1 absent.2).mp same).1

theorem HandOff.updated_iff {wf : Workflow} {shape : List (String × String × List String)}
    {world : World} (handOff : HandOff wf shape world) (stands : StandsAt world.status.tasks place)
    (points : PointsAt place world.status.currentState) :
    (updateAgentIDIfNeeded world.status).agentID = place.task.agentID ↔
      world.status.agentID = place.task.agentID ∨
        FollowsActions place.task world.status.tasks := by
  have ordered := handOff.execution.ordered
  by_cases changed : (updateAgentIDIfNeeded world.status).agentID = world.status.agentID
  · rw [changed]
    refine ⟨Or.inl, ?_⟩
    rintro (already | follows)
    · exact already
    · obtain ⟨before, previous, split, hasActions⟩ :=
        before_of_followsActions ordered.distinct stands.inTasks follows
      generalize isCurrent : world.status.currentState = current at points
      cases points with
      | untouched _ noneBefore =>
        exact absurd (noneBefore previous (by simp [split])) hasActions
      | onAction atTask => exact handOff.agent place _ stands isCurrent atTask
      | @behind currentState succeeded pending last =>
        cases last with
        | sameTask _ isTask => exact handOff.agent place _ stands isCurrent isTask.symm
        | @earlierTask others skipped task _ _ first otherSplit empty _ isTask =>
          have noneSkipped : skipped = [] := by
            rcases List.eq_nil_or_concat skipped with isNil | ⟨init, last, isConcat⟩
            · exact isNil
            · have ends : before ++ [previous] = (others ++ task :: init) ++ [last] := by
                rw [← split, otherSplit, isConcat]
                simp
              obtain rfl : previous = last :=
                List.singleton_inj.mp (List.append_inj' ends rfl).2
              exact absurd (empty previous (by simp [isConcat])) hasActions
          subst noneSkipped
          obtain rfl : previous = task :=
            List.singleton_inj.mp (List.append_inj' (split.symm.trans otherSplit) rfl).2
          have moved : MovedOn world.status place currentState others previous :=
            ⟨stands, isCurrent, succeeded, pending, first, otherSplit, hasActions, isTask.symm⟩
          rw [← changed]
          exact agentID_of_movedOn moved ordered.distinct
  · obtain ⟨other, _, before, previous, moved⟩ :=
      movedOn_of_changed ordered changed
    obtain rfl : other = place := moved.stands.unique stands
    have handedOver := agentID_of_movedOn moved ordered.distinct
    refine ⟨fun _ => Or.inr ⟨before, previous, other.after, moved.tasks_eq,
      moved.hasActions⟩, fun _ => handedOver⟩

theorem HandOff.agrees_iff {wf : Workflow} {shape : List (String × String × List String)}
    {world : World} (handOff : HandOff wf shape world) (replies : Replies)
    (isRunning : world.status.state = .running)
    (notPassed : deadlinePassed replies.now world.status = false)
    (isNext : world.status.tasks.find? (fun task => !isTaskSuccessful task) = some task) :
    (reconcileAtomically world replies .done).status.agentID = task.agentID ↔
      world.status.agentID = task.agentID ∨
        (wf.deletionTimestamp = none ∧ FollowsActions task world.status.tasks ∧
          ¬HeldBack world.status) := by
  have lifecycle := handOff.execution.lifecycle
  obtain ⟨_, stands, points, rfl⟩ := standing_of_find? handOff.execution.ordered isNext
  have written := lifecycle.patched_reconcileAtomically replies
    (show WriteReply.TookEffect .done from trivial)
  have updatedIff := handOff.updated_iff stands points
  have deletion : world.stored.value.deletionTimestamp = wf.deletionTimestamp := by
    rw [lifecycle.identity]
  rw [written.agentID]
  by_cases deleted : wf.deletionTimestamp = none
  · have reconciled : (reconcile replies world.cluster world.stored.value).updated =
        (reconcileRunning replies.now world.status).1 := by
      simp [reconcile, deletion, deleted, isRunning]
    have reconciles := reconcilesRunning_reconcileRunning replies.now world.status
    rw [reconciled]
    generalize (reconcileRunning replies.now world.status).1 = updated at reconciles
    cases reconciles with
    | timedOut passed =>
      rw [notPassed] at passed
      cases passed
    | heldBack _ arming notStarted =>
      rw [armingAction_updateAgentIDIfNeeded] at arming
      have heldBack : HeldBack world.status := ⟨_, arming, notStarted⟩
      simp [heldBack]
    | armed _ arming started =>
      have notHeldBack : ¬HeldBack world.status := by
        rintro ⟨first, isArming, notStarted⟩
        rw [armingAction_updateAgentIDIfNeeded, isArming] at arming
        cases arming
        rw [notStarted] at started
        cases started
      simp [deleted, notHeldBack, updatedIff]
    | handedOver _ notArming =>
      have notHeldBack : ¬HeldBack world.status := by
        rintro ⟨first, isArming, _⟩
        rw [armingAction_updateAgentIDIfNeeded, isArming] at notArming
        cases notArming
      simp [deleted, notHeldBack, updatedIff]
  · have idle : (reconcile replies world.cluster world.stored.value).updated = world.status := by
      simp [reconcile, deletion, deleted, Reconciled.idle]
    rw [idle]
    simp [deleted]

/-- After a reconcile of a running workflow that does not time out, `AgentID` is
the agent of the task the server serves from exactly when it was before, or when
that task follows a task with actions and nothing holds the patch back. -/
theorem handOff_agrees_iff (wf : Workflow) (ids : IdSource)
    (definition : Template.Workflow) (cluster : Cluster) (labels : List Label)
    (replies : Replies) (task : Task)
    (distinct : DistinctIDs (yamlToStatus ids definition).tasks) :
    let world := run step (World.start (readyWorkflow wf ids definition) cluster) labels
    world.status.state = .running →
    deadlinePassed replies.now world.status = false →
    world.status.tasks.find? (fun task => !isTaskSuccessful task) = some task →
    ((reconcileAtomically world replies .done).status.agentID = task.agentID ↔
      world.status.agentID = task.agentID ∨
        (wf.deletionTimestamp = none ∧ FollowsActions task world.status.tasks ∧
          ¬HeldBack world.status)) := by
  intro world isRunning notPassed isNext
  exact (handOff_run wf cluster labels distinct).agrees_iff replies isRunning notPassed
    isNext

/-- Adjacent tasks: the second agent takes over. -/
theorem handOff_agrees_iff_twoAgents :
    let world := run step
      (World.start (readyWorkflow sampleWorkflow listedIds twoAgents) emptyCluster)
      (runAction "agent-a")
    let task := Template.convertTask listedIds 1 secondTask
    world.status.agentID ≠ task.agentID ∧
      ((reconcileAtomically world (sampleReplies second "") .done).status.agentID =
          task.agentID ↔
        world.status.agentID = task.agentID ∨
          (sampleWorkflow.deletionTimestamp = none ∧
            FollowsActions task world.status.tasks ∧ ¬HeldBack world.status)) :=
  ⟨by decide, handOff_agrees_iff sampleWorkflow listedIds twoAgents emptyCluster
    (runAction "agent-a") (sampleReplies second "")
    (Template.convertTask listedIds 1 secondTask) (by decide) (by decide) (by decide)
    (by decide)⟩

def emptyMiddleTask : Template.Workflow where
  name := "empty middle task"
  globalTimeout := 600
  tasks := oneTask.tasks ++ [
    { name := "second", workerAddr := "agent-b", actions := [] },
    { name := "third", workerAddr := "agent-b",
      actions := [{ name := "install", image := "two" }] }]

/-- The first action is done and the next task is one of the second agent, but
the workflow stays with the first agent. -/
theorem handOff_missed :
    let world := run step
      (World.start (readyWorkflow sampleWorkflow listedIds emptyMiddleTask) emptyCluster)
      (runAction "agent-a")
    Template.validate (fun _ => none) emptyMiddleTask = none ∧
      DistinctIDs (yamlToStatus listedIds emptyMiddleTask).tasks ∧
      world.status.state = .running ∧
      deadlinePassed second world.status = false ∧
      (world.status.tasks.find? (fun task => !isTaskSuccessful task)).map Task.agentID =
        some "agent-b" ∧
      (reconcileAtomically world (sampleReplies second "") .done).status.agentID =
        "agent-a" := by
  decide

end Tinkerbell.System

import Tinkerbell.Server.ReportActionStatus
import Tinkerbell.Template.Convert

/-!
Owns: ordered execution as a property of one status. At any time there is one
current place, the first action that has not succeeded; everything before it
succeeded, everything after it is pending, and `CurrentState` points at it or
at the last action that succeeded.

`Ordered` is kept by what the two server handlers write, provided that a report
is for the current place.
-/

namespace Tinkerbell.System

open Api Server
open Template (IdSource yamlToStatus DistinctIDs mem_flatActions_yamlToStatus)

def currentPlace : List Task → Option Place :=
  findPlace fun _ action => action.state ≠ .success

theorem currentPlace_eq_some_iff {tasks : List Task} {place : Place} :
    currentPlace tasks = some place ↔
      place.In tasks ∧ place.action.state ≠ .success ∧
        (∀ action ∈ place.earlier, action.state = .success) ∧
        ∀ task ∈ place.before, ∀ action ∈ task.actions, action.state = .success := by
  unfold currentPlace
  rw [findPlace_eq_some_iff]
  simp

theorem currentPlace_eq_none_iff {tasks : List Task} :
    currentPlace tasks = none ↔
      ∀ task ∈ tasks, ∀ action ∈ task.actions, action.state = .success := by
  unfold currentPlace
  rw [findPlace_eq_none_iff]
  simp

/-- Execution stands at a place and nothing behind it was touched. -/
structure StandsAt (tasks : List Task) (place : Place) : Prop where
  current : currentPlace tasks = some place
  later : ∀ action ∈ place.later, action.state = .pending
  after : ∀ task ∈ place.after, ∀ action ∈ task.actions, action.state = .pending

namespace StandsAt

variable {tasks : List Task} {place : Place} (stands : StandsAt tasks place)
include stands

theorem inTasks : place.In tasks := (currentPlace_eq_some_iff.mp stands.current).1

theorem notSucceeded : place.action.state ≠ .success :=
  (currentPlace_eq_some_iff.mp stands.current).2.1

theorem earlier : ∀ action ∈ place.earlier, action.state = .success :=
  (currentPlace_eq_some_iff.mp stands.current).2.2.1

theorem before : ∀ task ∈ place.before, ∀ action ∈ task.actions, action.state = .success :=
  (currentPlace_eq_some_iff.mp stands.current).2.2.2

end StandsAt

/-- The last action that succeeded, by its task and its own identifier: the one
right before the place in the same task, or the last one of an earlier task
with nothing but tasks without actions in between. -/
inductive LastDone (place : Place) (taskID actionID : String) : Prop
  | sameTask {earlier : List Action} {last : Action}
      (split : place.earlier = earlier ++ [last])
      (isTask : place.task.id = taskID) (isAction : last.id = actionID)
  | earlierTask {before skipped : List Task} {task : Task} {earlier : List Action}
      {last : Action} (first : place.earlier = [])
      (split : place.before = before ++ task :: skipped)
      (empty : ∀ other ∈ skipped, other.actions = [])
      (actions : task.actions = earlier ++ [last])
      (isTask : task.id = taskID) (isAction : last.id = actionID)

/-- What the current state says while execution stands at a place. -/
inductive PointsAt (place : Place) : Option CurrentState → Prop
  | untouched (first : place.earlier = [])
      (before : ∀ task ∈ place.before, task.actions = [])
      (pending : place.action.state = .pending) : PointsAt place none
  | onAction {currentState : CurrentState} (task : currentState.taskID = place.task.id)
      (action : currentState.actionID = place.action.id)
      (state : currentState.state = place.action.state) :
      PointsAt place (some currentState)
  | behind {currentState : CurrentState} (state : currentState.state = .success)
      (pending : place.action.state = .pending)
      (last : LastDone place currentState.taskID currentState.actionID) :
      PointsAt place (some currentState)

/-- Execution stands at a place, or every action succeeded. -/
inductive Progress (tasks : List Task) (currentState : Option CurrentState) : Prop
  | standing {place : Place} (stands : StandsAt tasks place)
      (points : PointsAt place currentState)
  | finished (all : currentPlace tasks = none)

structure Ordered (status : WorkflowStatus) : Prop where
  distinct : DistinctIDs status.tasks
  progress : Progress status.tasks status.currentState

theorem ordered_yamlToStatus {ids : IdSource} {wf : Template.Workflow}
    (distinct : DistinctIDs (yamlToStatus ids wf).tasks) :
    Ordered { yamlToStatus ids wf with state := .pending } := by
  refine ⟨distinct, ?_⟩
  have allPending : ∀ task ∈ (yamlToStatus ids wf).tasks, ∀ action ∈ task.actions,
      action.state = .pending := by
    intro task member action inTask
    exact (mem_flatActions_yamlToStatus
      (List.mem_flatMap.mpr ⟨task, member, inTask⟩)).1
  generalize (yamlToStatus ids wf).tasks = tasks at allPending
  cases found : currentPlace tasks with
  | none => exact .finished found
  | some place =>
    obtain ⟨inTasks, _, earlier, before⟩ := currentPlace_eq_some_iff.mp found
    have inPlace : ∀ action ∈ place.task.actions, action.state = .pending :=
      allPending place.task (by rw [inTasks.tasks_eq]; simp)
    -- Whatever stands before the place would be pending and succeeded at once.
    have noneEarlier : place.earlier = [] := by
      apply List.eq_nil_iff_forall_not_mem.mpr
      intro action member
      have succeeded := earlier action member
      rw [inPlace action (by rw [inTasks.actions_eq]; simp [member])] at succeeded
      cases succeeded
    have noneBefore : ∀ task ∈ place.before, task.actions = [] := by
      intro task member
      apply List.eq_nil_iff_forall_not_mem.mpr
      intro action inTask
      have succeeded := before task member action inTask
      rw [allPending task (by rw [inTasks.tasks_eq]; simp [member]) action inTask]
        at succeeded
      cases succeeded
    refine .standing ⟨found, ?_, ?_⟩ (.untouched noneEarlier noneBefore ?_)
    · intro action member
      exact inPlace action (by rw [inTasks.actions_eq]; simp [member])
    · intro task member
      exact allPending task (by rw [inTasks.tasks_eq]; simp [member])
    · exact inPlace place.action (by rw [inTasks.actions_eq]; simp)

variable {task : Task} {action : Action}

theorem isTaskSuccessful_of_all (all : ∀ action ∈ task.actions, action.state = .success) :
    isTaskSuccessful task = true := by
  unfold isTaskSuccessful
  split
  · rfl
  · next last isLast =>
    simpa using all last (List.mem_of_getLast? isLast)

theorem StandsAt.not_isTaskSuccessful {tasks : List Task} {place : Place}
    (stands : StandsAt tasks place) : isTaskSuccessful place.task = false := by
  have notSucceeded := stands.notSucceeded
  unfold isTaskSuccessful
  rw [stands.inTasks.actions_eq]
  cases laterSplit : place.later.getLast? with
  | none =>
    rw [List.getLast?_eq_none_iff] at laterSplit
    simp [laterSplit, notSucceeded]
  | some last =>
    have pending := stands.later last (List.mem_of_getLast? laterSplit)
    simp [List.getLast?_append, List.getLast?_cons, laterSplit, pending]

theorem StandsAt.find?_eq {tasks : List Task} {place : Place}
    (stands : StandsAt tasks place) :
    tasks.find? (fun task => !isTaskSuccessful task) = some place.task := by
  rw [stands.inTasks.tasks_eq]
  apply List.find?_eq_some_iff_append.mpr
  refine ⟨by simp [stands.not_isTaskSuccessful], place.before, place.after, rfl, ?_⟩
  intro other member
  simp [isTaskSuccessful_of_all (stands.before other member)]

theorem StandsAt.selectTask_eq {tasks : List Task} {place : Place} (stands : StandsAt tasks place)
    (selected : selectTask tasks = .ok task) : task = place.task := by
  have inTasks := stands.inTasks
  unfold selectTask at selected
  split at selected
  · cases selected
  · next first _ =>
    split at selected
    · next isFirst =>
      cases selected
      cases beforeSplit : place.before with
      | nil =>
        have split := inTasks.tasks_eq
        rw [beforeSplit] at split
        exact (List.cons.inj split).1
      | cons head =>
        -- The first task would have succeeded while its first action is pending.
        have split := inTasks.tasks_eq
        rw [beforeSplit] at split
        obtain rfl : task = head := (List.cons.inj split).1
        have succeeded := stands.before task (by simp [beforeSplit])
        unfold isFirstAction at isFirst
        split at isFirst
        · cases isFirst
        · next action _ actionsSplit =>
          have pending : action.state = .pending := by simpa using isFirst
          have done := succeeded action (by simp [actionsSplit])
          rw [pending] at done
          cases done
    · rw [stands.find?_eq] at selected
      cases selected
      rfl

variable {actionID : String} {earlier later : List Action} {currentState : Option CurrentState}
  {request : ActionStatusRequest} {first : Action}

theorem find?_append_of_absent (later : List Action) (isAction : action.id = actionID)
    (absent : ∀ other ∈ earlier, other.id ≠ actionID) :
    (earlier ++ action :: later).find? (fun other => other.id = actionID) = some action := by
  apply List.find?_eq_some_iff_append.mpr
  refine ⟨by simp [isAction], earlier, later, rfl, ?_⟩
  intro other member
  simp [absent other member]

theorem nextAction_append {last next : Action} (later : List Action) (isLast : last.id = actionID)
    (absent : ∀ other ∈ earlier, other.id ≠ actionID) :
    nextAction actionID (earlier ++ last :: next :: later) = .ok next := by
  induction earlier with
  | nil => simp [nextAction, isLast]
  | cons head rest ih =>
    have headDifferent : head.id ≠ actionID := absent head (by simp)
    have restAbsent : ∀ other ∈ rest, other.id ≠ actionID := by
      intro other member
      exact absent other (List.mem_cons_of_mem head member)
    simp [nextAction, headDifferent, ih restAbsent]

theorem distinct_around {tasks : List Task} {place : Place}
    (distinct : DistinctIDs tasks) (inTasks : place.In tasks) :
    (∀ task ∈ place.before, ∀ action ∈ task.actions, action.id ≠ place.action.id) ∧
      ((place.earlier ++ place.action :: place.later).map Action.id).Nodup := by
  have nodup := distinct.2
  rw [inTasks.flatActions_eq, List.map_append, List.map_append, List.append_assoc]
    at nodup
  have parts := List.nodup_append.mp nodup
  have here := List.nodup_append.mp parts.2.1
  refine ⟨?_, here.1⟩
  intro task member action inTask same
  refine parts.2.2 action.id ?_ place.action.id ?_ same
  · exact List.mem_map_of_mem (List.mem_flatMap.mpr ⟨task, member, inTask⟩)
  · simp

theorem absent_earlier {tasks : List Task} {place : Place}
    (distinct : DistinctIDs tasks) (inTasks : place.In tasks) :
    ∀ other ∈ place.earlier, other.id ≠ place.action.id := by
  have nodup := (distinct_around distinct inTasks).2
  rw [List.map_append] at nodup
  have parts := List.nodup_append.mp nodup
  intro other member same
  exact parts.2.2 other.id (List.mem_map_of_mem member) place.action.id (by simp) same

theorem resolveAction_cases (resolved : resolveAction task currentState = .ok action) :
    (action.state = .pending ∧ ∃ rest, task.actions = action :: rest) ∨
      (isFirstAction task = false ∧
        resolveStarted task.actions currentState = .ok action) := by
  unfold resolveAction at resolved
  split at resolved
  · next _ rest isFirst actionsSplit =>
    cases resolved
    unfold isFirstAction at isFirst
    rw [actionsSplit] at isFirst
    exact Or.inl ⟨by simpa using isFirst, rest, actionsSplit⟩
  · next notFirst =>
    refine Or.inr ⟨?_, resolved⟩
    cases isFirst : isFirstAction task with
    | false => rfl
    | true =>
      cases actionsSplit : task.actions with
      | nil => simp [isFirstAction, actionsSplit] at isFirst
      | cons first rest => exact absurd actionsSplit (notFirst first rest isFirst)

theorem StandsAt.resolveAction_eq {tasks : List Task} {place : Place} (distinct : DistinctIDs tasks)
    (stands : StandsAt tasks place) (points : PointsAt place currentState)
    (resolved : resolveAction place.task currentState = .ok action) :
    action = place.action := by
  have inTasks := stands.inTasks
  rcases resolveAction_cases resolved with ⟨pending, rest, first⟩ | ⟨notFirst, started⟩
  · rw [inTasks.actions_eq] at first
    cases earlierSplit : place.earlier with
    | nil =>
      rw [earlierSplit] at first
      exact (List.cons.inj first).1.symm
    | cons head =>
      rw [earlierSplit] at first
      obtain rfl : head = action := (List.cons.inj first).1
      have succeeded := stands.earlier head (by simp [earlierSplit])
      rw [pending] at succeeded
      cases succeeded
  · rw [inTasks.actions_eq] at started
    cases points with
    | untouched => cases started
    | @onAction _ _ isAction state =>
      simp only [resolveStarted] at started
      rw [isAction, find?_append_of_absent place.later rfl
        (absent_earlier distinct inTasks)] at started
      split at started
      · cases started
        rfl
      · rw [if_pos (by rw [state]; exact stands.notSucceeded)] at started
        cases started
    | @behind _ state pending last =>
      cases last with
      | @sameTask earlier last split _ isLast =>
        have nodup := (distinct_around distinct inTasks).2
        rw [split, List.append_assoc] at started nodup
        have absent : ∀ other ∈ earlier, other.id ≠ last.id := by
          rw [List.map_append] at nodup
          have parts := List.nodup_append.mp nodup
          intro other member
          exact parts.2.2 other.id (List.mem_map_of_mem member) last.id (by simp)
        simp [resolveStarted, state, ← isLast, nextAction_append place.later rfl absent] at started
        exact started.symm
      | earlierTask first =>
        -- A pending first action is served as such.
        unfold isFirstAction at notFirst
        rw [inTasks.actions_eq, first] at notFirst
        simp [pending] at notFirst

theorem not_selectTask_of_finished {tasks : List Task} (finished : currentPlace tasks = none) :
    selectTask tasks ≠ .ok task := by
  have all := currentPlace_eq_none_iff.mp finished
  intro selected
  unfold selectTask at selected
  split at selected
  · cases selected
  · next first _ =>
    split at selected
    · next isFirst =>
      unfold isFirstAction at isFirst
      split at isFirst
      · cases isFirst
      · next action _ actionsSplit =>
        have succeeded := all first (by simp) action (by simp [actionsSplit])
        rw [succeeded] at isFirst
        cases isFirst
    · split at selected
      · next found isFound =>
        have member := List.mem_of_find?_eq_some isFound
        have unsuccessful := List.find?_some isFound
        rw [isTaskSuccessful_of_all (all found member)] at unsuccessful
        cases unsuccessful
      · cases selected

/-- What a successful call served. -/
structure ServesPlace (agentID : String) (status : WorkflowStatus) (task : Task)
    (action : Action) (place : Place) : Prop where
  stands : StandsAt status.tasks place
  points : PointsAt place status.currentState
  task_eq : task = place.task
  action_eq : action = place.action
  assigned : place.task.agentID = agentID

theorem Ordered.serves {agentID : String} {wf : Workflow} (ordered : Ordered wf.status)
    (serves : Serves agentID wf task action) :
    ∃ place, ServesPlace agentID wf.status task action place := by
  cases ordered.progress with
  | finished all =>
    exact absurd serves.taskSelected (not_selectTask_of_finished all)
  | @standing place stands points =>
    obtain rfl : task = place.task := stands.selectTask_eq serves.taskSelected
    obtain rfl : action = place.action :=
      stands.resolveAction_eq ordered.distinct points serves.actionResolved
    exact ⟨place, stands, points, rfl, rfl, serves.assigned⟩

/-- The report is for the action at a place. -/
structure IsFor (request : ActionStatusRequest) (place : Place) : Prop where
  action : request.actionId = place.action.id
  task : request.taskId = place.task.id
  agent : request.agentId = place.task.agentID

theorem locate_of_isFor {tasks : List Task} {place : Place} (distinct : DistinctIDs tasks)
    (inTasks : place.In tasks) (isFor : IsFor request place) :
    locate request.actionId request.agentId tasks = some place := by
  unfold locate
  rw [findPlace_eq_some_iff]
  refine ⟨inTasks, by simp [isFor.action, isFor.agent], ?_, ?_⟩
  · intro action member
    simp [isFor.action, absent_earlier distinct inTasks action member]
  · intro task member action inTask
    simp [isFor.action, (distinct_around distinct inTasks).1 task member action inTask]

def placeWith (place : Place) (action : Action) : Place :=
  { place with
    task := { place.task with actions := place.earlier ++ action :: place.later }
    action }

theorem distinctIDs_replace {tasks : List Task} {place : Place} (distinct : DistinctIDs tasks)
    (inTasks : place.In tasks) (sameID : action.id = place.action.id) :
    DistinctIDs (place.replace action) := by
  have taskIDs : (place.replace action).map Task.id = tasks.map Task.id := by
    rw [inTasks.tasks_eq]
    simp [Place.replace]
  have actionIDs : (flatActions (place.replace action)).map Action.id =
      (flatActions tasks).map Action.id := by
    rw [inTasks.flatActions_eq, Place.flatActions_replace]
    simp [sameID]
  unfold DistinctIDs
  rw [taskIDs, actionIDs]
  exact distinct

theorem StandsAt.replace {tasks : List Task} {place : Place}
    (stands : StandsAt tasks place) (action : Action) (notSucceeded : action.state ≠ .success) :
    StandsAt (place.replace action) (placeWith place action) where
  current := currentPlace_eq_some_iff.mpr
    ⟨⟨rfl, rfl⟩, notSucceeded, stands.earlier, stands.before⟩
  later := stands.later
  after := stands.after

theorem exists_first_action (tasks : List Task) :
    (∀ task ∈ tasks, task.actions = []) ∨
      ∃ skipped task after first later, tasks = skipped ++ task :: after ∧
        (∀ other ∈ skipped, other.actions = []) ∧ task.actions = first :: later := by
  induction tasks with
  | nil => exact Or.inl (by simp)
  | cons head rest ih =>
    cases headActions : head.actions with
    | cons first later =>
      exact Or.inr ⟨[], head, rest, first, later, rfl, by simp, headActions⟩
    | nil =>
      rcases ih with noneLeft | found
      · refine Or.inl fun task member => ?_
        rcases List.mem_cons.mp member with rfl | inRest
        · exact headActions
        · exact noneLeft task inRest
      · obtain ⟨skipped, task, after, first, later, rfl, empty, actions⟩ := found
        refine Or.inr ⟨head :: skipped, task, after, first, later, rfl, ?_, actions⟩
        intro other member
        rcases List.mem_cons.mp member with rfl | inSkipped
        · exact headActions
        · exact empty other inSkipped

/-- Nothing is left to do after the action of a place. -/
def NothingLeft (place : Place) : Prop :=
  place.later = [] ∧ ∀ task ∈ place.after, task.actions = []

theorem StandsAt.succeeded_through {tasks : List Task} {place : Place}
    (stands : StandsAt tasks place) (succeeded : action.state = .success) :
    ∀ other ∈ place.earlier ++ [action], other.state = .success := by
  intro other member
  rcases List.mem_append.mp member with inEarlier | isLast
  · exact stands.earlier other inEarlier
  · rw [List.mem_singleton.mp isLast]
    exact succeeded

theorem StandsAt.next_action {tasks : List Task} {place : Place} (stands : StandsAt tasks place)
    (succeeded : action.state = .success) (laterSplit : place.later = first :: later) :
    StandsAt (place.replace action) ⟨place.before, (placeWith place action).task,
      place.after, place.earlier ++ [action], first, later⟩ := by
  refine ⟨?_, ?_, stands.after⟩
  · apply currentPlace_eq_some_iff.mpr
    refine ⟨⟨rfl, ?_⟩, ?_, stands.succeeded_through succeeded, stands.before⟩
    · simp [placeWith, laterSplit]
    · rw [stands.later first (by simp [laterSplit])]
      simp
  · intro other member
    exact stands.later other (by simp [laterSplit, member])

theorem StandsAt.succeeded_task {tasks : List Task} {place : Place} (stands : StandsAt tasks place)
    (succeeded : action.state = .success) (isLast : place.later = []) :
    ∀ other ∈ (placeWith place action).task.actions, other.state = .success := by
  have taskActions : (placeWith place action).task.actions = place.earlier ++ [action] := by
    simp [placeWith, isLast]
  rw [taskActions]
  exact stands.succeeded_through succeeded

theorem StandsAt.next_task {tasks skipped after : List Task} {place : Place}
    (stands : StandsAt tasks place) (succeeded : action.state = .success)
    (isLast : place.later = []) (afterSplit : place.after = skipped ++ task :: after)
    (empty : ∀ other ∈ skipped, other.actions = []) (actions : task.actions = first :: later) :
    StandsAt (place.replace action) ⟨place.before ++ (placeWith place action).task :: skipped,
      task, after, [], first, later⟩ := by
  have inAfter : task ∈ place.after := by simp [afterSplit]
  refine ⟨?_, ?_, ?_⟩
  · apply currentPlace_eq_some_iff.mpr
    refine ⟨⟨?_, actions⟩, ?_, by simp, ?_⟩
    · simp [Place.replace, placeWith, afterSplit]
    · rw [stands.after task inAfter first (by simp [actions])]
      simp
    · intro other member
      rcases List.mem_append.mp member with inBefore | rest
      · exact stands.before other inBefore
      · rcases List.mem_cons.mp rest with rfl | inSkipped
        · exact stands.succeeded_task succeeded isLast
        · simp [empty other inSkipped]
  · intro other member
    exact stands.after task inAfter other (by simp [actions, member])
  · intro other member
    exact stands.after other (by simp [afterSplit, member])

/-- After a success execution stands at the next action, which is untouched, and
the action that succeeded is the last one done; or everything succeeded. -/
theorem StandsAt.advance {tasks : List Task} {place : Place}
    (stands : StandsAt tasks place) (action : Action)
    (succeeded : action.state = .success) :
    (currentPlace (place.replace action) = none ∧ NothingLeft place) ∨
      (¬NothingLeft place ∧ ∃ next, StandsAt (place.replace action) next ∧
        next.action.state = .pending ∧ LastDone next place.task.id action.id) := by
  cases laterSplit : place.later with
  | cons first =>
    refine Or.inr ⟨by simp [NothingLeft, laterSplit], _,
      stands.next_action succeeded laterSplit, ?_, .sameTask rfl rfl rfl⟩
    exact stands.later first (by simp [laterSplit])
  | nil =>
    rcases exists_first_action place.after with noneLeft | found
    · refine Or.inl ⟨currentPlace_eq_none_iff.mpr fun task member => ?_,
        laterSplit, noneLeft⟩
      rcases List.mem_append.mp member with inBefore | rest
      · exact stands.before task inBefore
      · rcases List.mem_cons.mp rest with rfl | inAfter
        · exact stands.succeeded_task succeeded laterSplit
        · simp [noneLeft task inAfter]
    · obtain ⟨_, task, _, first, _, afterSplit, empty, actions⟩ := found
      have inAfter : task ∈ place.after := by simp [afterSplit]
      have somethingLeft : ¬NothingLeft place := by
        intro nothing
        have noActions := nothing.2 task inAfter
        rw [actions] at noActions
        cases noActions
      have taskActions : (placeWith place action).task.actions = place.earlier ++ [action] := by
        simp [placeWith, laterSplit]
      refine Or.inr ⟨somethingLeft, _,
        stands.next_task succeeded laterSplit afterSplit empty actions, ?_,
        .earlierTask rfl rfl empty taskActions rfl rfl⟩
      exact stands.after task inAfter first (by simp [actions])

theorem StandsAt.finished_of_isLast {tasks : List Task} {place : Place}
    (stands : StandsAt tasks place) (action : Action) (isLast : place.isLast)
    (succeeded : action.state = .success) :
    currentPlace (place.replace action) = none := by
  have nothingLeft : NothingLeft place := ⟨isLast.2, by simp [isLast.1]⟩
  rcases stands.advance action succeeded with finished | left
  · exact finished.1
  · exact absurd nothingLeft left.1

theorem Ordered.reported {status : WorkflowStatus} {place : Place} (ordered : Ordered status)
    (stands : StandsAt status.tasks place) (isFor : IsFor request place) :
    Ordered (reportedStatus request place status) := by
  refine ⟨distinctIDs_replace ordered.distinct stands.inTasks rfl, ?_⟩
  by_cases success : request.actionState.workflowState = .success
  · rcases stands.advance (applyReport request place.action) success with
      finished | ⟨_, next, standsNext, pending, last⟩
    · exact .finished finished.1
    · refine .standing standsNext (.behind success pending ?_)
      rw [isFor.task, isFor.action]
      exact last
  · have standsStill := stands.replace (applyReport request place.action) success
    exact .standing standsStill (.onAction isFor.task isFor.action rfl)

end Tinkerbell.System

import Tinkerbell.Library.History
import Tinkerbell.Rufio.Order

/-!
Owns: the actions of a Job run strictly in order, read off the log of any run
in which every list of Tasks is up to date and no Task carries the Job's name
beforehand.

`Allowed` says what must stand in the log before each event. A run of the
controller appends only allowed events, so the whole log is justified.
-/

namespace Tinkerbell.Rufio

open Api
open History TransitionSystem

def Allowed (job : Bmc.Job) (before : List Event) : Event → Prop
  -- An action is that of the Task's index, comes after the Task before it is
  -- completed, and never after the end of the Job.
  | .called task call _ => ∀ index, task = ownRef job index →
      (∃ action, job.tasks[index]? = some action ∧ actionCall action = .call call) ∧
      (∀ earlier, index = earlier + 1 →
        .taskCompleted (ownRef job earlier) ∈ before) ∧
      .jobCompleted ∉ before ∧ .jobFailed ∉ before
  -- A Task is completed after its call returned success and the power state it
  -- asks for was read.
  | .taskCompleted task => ∀ index, task = ownRef job index →
      ∃ action call, job.tasks[index]? = some action ∧
        actionCall action = .call call ∧ .called task call .succeeded ∈ before ∧
        ∀ state, requestedState action = some state → .powerRead task state ∈ before
  | .jobCompleted => (∀ index, index < job.tasks.length →
      .taskCompleted (ownRef job index) ∈ before) ∧ .jobFailed ∉ before
  | .jobFailed => FailureLogged job before ∧ .jobCompleted ∉ before
  | _ => True

private theorem allowed_patchJobStatus (read updated stored : Bmc.Job) :
    Allowed (patchJobStatus read updated stored) = Allowed stored := by
  funext before event
  cases event <;> rfl

variable {world after : World} {name : String} {task : Bmc.Task} {label : Label} {job : Bmc.Job}

theorem mem_own_of_ref {index : Nat} (order : InOrder world.job world.own)
    (found : world.tasks.find name = some task) (isRef : taskRef task = ownRef world.job index) :
    world.own[index]? = some task := by
  have owned : ownedBy world.job task = true := by
    have owner := congrArg TaskRef.owner isRef
    simpa [ownedBy, taskRef, ownRef] using owner
  have member : task ∈ world.own :=
    World.mem_own.mpr ⟨(ObjectStore.find_eq_some.mp found).1, owned⟩
  obtain ⟨position, isThere⟩ := List.mem_iff_getElem?.mp member
  rw [order.refAt isThere] at isRef
  have same : position = index := formatTaskName_injective (congrArg TaskRef.name isRef)
  rw [← same]
  exact isThere

section

variable (backed : Backed world)
include backed

theorem completed_logged (order : InOrder world.job world.own) {index : Nat}
    (isThere : world.own[index]? = some task) (completed : task.completed = true) :
    .taskCompleted (ownRef world.job index) ∈ world.log := by
  have member : task ∈ world.own := List.mem_of_getElem? isThere
  have evidence := backed.tasks.status task.name task (World.found_of_mem_own member)
    (World.mem_own.mp member).2
  rw [← order.refAt isThere]
  exact evidence.completed completed

section

variable (ordered : Ordered world)
include ordered

private theorem not_ended_of_unfinished
    (member : task ∈ world.own) (active : taskEnded task.status = false) :
    .jobCompleted ∉ world.log ∧ .jobFailed ∉ world.log := by
  refine ⟨?_, ?_⟩
  · intro logged
    have all := ordered.completed (backed.job.completed.mp logged)
    rw [all.ended task member] at active
    cases active
  · intro logged
    have stopped := ordered.failed (backed.job.failed.mp logged)
    rw [stopped.1 task member] at active
    cases active

private theorem allowed_called {phase : TaskPhase}
    {call : BmcCall} (inFlight : world.taskRuns name = some ⟨task, phase⟩)
    (isCall : actionCall task.spec.task = .call call) (reply : CallReply) :
    Allowed world.job world.log (.called (taskRef task) call reply) := by
  intro index isRef
  obtain ⟨found, active⟩ := backed.reads.task name _ inFlight
  have isThere := mem_own_of_ref ordered.order found isRef
  have unfinished : task.completed = false := (taskEnded_eq_false.mp active).2
  have isLast := ordered.order.index_of_unfinished isThere unfinished
  refine ⟨⟨task.spec.task, (ordered.order.atIndex isThere).2, isCall⟩, ?_,
    not_ended_of_unfinished backed ordered (List.mem_of_getElem? isThere) active⟩
  rintro earlier rfl
  have below : earlier < world.own.length := by omega
  have isEarlier := List.getElem?_eq_getElem below
  exact completed_logged backed ordered.order isEarlier
    (ordered.order.completed_of_lt isEarlier (by omega))

private theorem allowed_taskEvents
    {status : Bmc.TaskStatus} (inFlight : world.taskRuns name = some ⟨task, .patching status⟩) :
    Justified (Allowed world.job) world.log →
      Justified (Allowed world.job) (world.log ++ World.taskEvents task status) := by
  intro justified
  unfold World.taskEvents
  split
  · exact justified_concat justified trivial
  · next notFailed =>
    split
    · next completed =>
      apply justified_concat justified
      intro index isRef
      obtain ⟨found, _⟩ := backed.reads.task name _ inFlight
      have isThere := mem_own_of_ref ordered.order found isRef
      have isAction := (ordered.order.atIndex isThere).2
      have owned := (World.mem_own.mp (List.mem_of_getElem? isThere)).2
      cases backed.tasks.phase name _ inFlight owned with
      | failing failed => exact absurd failed notFailed
      | sent active =>
        rw [(taskEnded_eq_false.mp active).2] at completed
        cases completed
      | done _ _ sent confirmed =>
        obtain ⟨call, isCall, logged⟩ := sent
        exact ⟨task.spec.task, call, isAction, isCall, logged, confirmed⟩
    · rw [List.append_nil]
      exact justified

private theorem allowed_jobEvents {run : JobRun}
    (inFlight : world.jobRun = some run) :
    Justified (Allowed world.job) world.log →
      Justified (Allowed world.job) (world.log ++ World.jobEvents run.updated) := by
  intro justified
  obtain ⟨_, active⟩ := backed.reads.job run inFlight
  obtain ⟨notCompleted, notFailed⟩ := jobEnded_eq_false.mp active
  have known := ordered.run run inFlight
  unfold World.jobEvents
  split
  · next completed =>
    apply justified_concat justified
    obtain ⟨isLength, all⟩ := known.completing completed
    refine ⟨?_, ?_⟩
    · intro index below
      rw [← isLength] at below
      exact completed_logged backed ordered.order (List.getElem?_eq_getElem below)
        (all _ (List.getElem_mem below))
    · rw [backed.job.failed, notFailed]
      simp
  · split
    · next failed =>
      apply justified_concat justified
      refine ⟨(known.failing failed).2, ?_⟩
      rw [backed.job.completed, notCompleted]
      simp
    · rw [List.append_nil]
      exact justified

end

end

theorem justified_effect (justified : Justified (Allowed world.job) world.log)
    (backed : Backed world) (ordered : Ordered world) (effect : Effect world label after) :
    Justified (Allowed after.job) after.log := by
  cases effect with
  | create | refuse => exact justified_concat justified trivial
  | patchJob _ read updated inFlight =>
    show Justified (Allowed (patchJobStatus read updated world.job)) _
    rw [allowed_patchJobStatus]
    exact allowed_jobEvents backed ordered inFlight justified
  | call _ reply _ _ _ inFlight isCall =>
    exact justified_concat justified (allowed_called backed ordered inFlight isCall reply)
  | check _ _ read task =>
    show Justified (Allowed world.job) (world.log ++ World.readEvents task read)
    unfold World.readEvents
    split
    · exact justified_concat justified trivial
    · rw [List.append_nil]
      exact justified
  | patchTask _ _ _ _ inFlight =>
    exact allowed_taskEvents backed ordered inFlight justified
  | _ => exact justified

/-- Reads see the latest write: a list of Tasks is that of the server, in any
order. Other Jobs have other names, and leave this Job alone. No Task is created
with an answer that is lost. -/
def FreshReads (world : World) : Label → Prop
  | .createTask reply => reply.isLost = false
  | .listTasks _ (.ok listed) => listed.Perm (listedTasks world.job world.tasks)
  | .addTask task => listedFor world.job task = false
  | .removeTask name => Undisturbed world (.removeTask name)
  | _ => True

instance (world : World) : (label : Label) → Decidable (FreshReads world label)
  | .listTasks _ (.ok listed) =>
    inferInstanceAs (Decidable (listed.Perm (listedTasks world.job world.tasks)))
  | .createTask _ | .addTask _ => inferInstanceAs (Decidable (_ = false))
  | .removeTask name => inferInstanceAs (Decidable (Undisturbed world (.removeTask name)))
  | .listTasks _ (.error _) | .beginJob _ _ | .patchJob _ | .beginTask _ _ | .callBmc _ _
  | .checkTask _ _ _ | .patchTask _ _ => isTrue trivial

theorem undisturbed_of_fresh (fresh : FreshReads world label) : Undisturbed world label := by
  cases label with
  | addTask => exact ownedBy_of_unlisted fresh
  | removeTask | createTask => exact fresh
  | _ => trivial

/-- The stored Job is the given one but for its status. -/
def IsJob (job stored : Bmc.Job) : Prop :=
  stored = { job with
    conditions := stored.conditions
    startTime := stored.startTime
    completionTime := stored.completionTime }

/-- Every Task of the Job's name is the Job's own. -/
def OwnOnly (world : World) : Prop :=
  ∀ task ∈ world.tasks.items, listedFor world.job task = true →
    ownedBy world.job task = true

theorem OwnOnly.listed_eq (ownOnly : OwnOnly world) :
    listedTasks world.job world.tasks = world.own := by
  apply List.filter_congr
  intro task member
  cases owned : ownedBy world.job task with
  | true => exact listedFor_of_ownedBy owned
  | false =>
    cases listed : listedFor world.job task with
    | false => rfl
    | true =>
      rw [ownOnly task member listed] at owned
      cases owned

theorem OwnOnly.ownDecides (ownOnly : OwnOnly world) {listed : List Bmc.Task}
    (permuted : listed.Perm (listedTasks world.job world.tasks)) :
    OwnDecides world.job listed := by
  have allOwn : ∀ task ∈ listed, ownedBy world.job task = true := by
    intro task member
    obtain ⟨isItem, isListed⟩ := List.mem_filter.mp (permuted.mem_iff.mp member)
    exact ownOnly task isItem isListed
  unfold OwnDecides OwnDecidesAt
  split
  · next task first => exact Or.inl (allOwn task (List.mem_of_find?_eq_some first))
  · exact allOwn

theorem OwnOnly.effect (ownOnly : OwnOnly world) (reads : Reads world)
    (fresh : FreshReads world label) (effect : Effect world label after) : OwnOnly after := by
  cases effect with
  | create _ _ connection index action inFlight =>
    obtain ⟨rfl, _⟩ := reads.job _ inFlight
    intro task member listed
    rcases ObjectStore.mem_insert member with old | rfl
    · exact ownOnly task old listed
    · exact ownedBy_ownTask world.job index action connection
  | patchTask _ _ _ status =>
    intro stored member listed
    obtain ⟨before, isItem, rfl⟩ := List.mem_map.mp member
    -- Neither the index nor the owner looks at the status.
    unfold ObjectStore.changeAt at listed ⊢
    split at listed
    · next named =>
      rw [if_pos named]
      exact ownOnly before isItem listed
    · next other =>
      rw [if_neg other]
      exact ownOnly before isItem listed
  | addTask =>
    intro stored member listed
    rcases ObjectStore.mem_insert member with old | rfl
    · exact ownOnly stored old listed
    · have unlisted : listedFor world.job stored = false := fresh
      exact absurd (listed.symm.trans unlisted) (by simp)
  | removeTask =>
    intro stored member listed
    exact ownOnly stored (List.mem_filter.mp member).1 listed
  | _ => exact ownOnly

/-- What every run of a Job that has not ended keeps. -/
structure Sequenced (job : Bmc.Job) (world : World) : Prop where
  backed : Backed world
  ordered : Ordered world
  ownOnly : OwnOnly world
  log : Justified (Allowed world.job) world.log
  isJob : IsJob job world.job

theorem IsJob.effect (isJob : IsJob job world.job) (effect : Effect world label after) :
    IsJob job after.job := by
  cases effect with
  | patchJob _ read updated =>
    show IsJob job (patchJobStatus read updated world.job)
    unfold IsJob patchJobStatus
    rw [isJob]
  | _ => exact isJob

theorem Sequenced.step (sequenced : Sequenced job world) (fresh : FreshReads world label) :
    Sequenced job (step world label) := by
  have decides : DecidesFromOwn world label := by
    refine ⟨undisturbed_of_fresh fresh, ?_⟩
    unfold ListsOwn
    split
    · next _ listed =>
      have permuted : listed.Perm (listedTasks world.job world.tasks) := fresh
      exact ⟨permuted, sequenced.ownOnly.ownDecides permuted⟩
    · trivial
  have effect := decides.1.act_effect
  have ownOnly := sequenced.ownOnly.effect sequenced.backed.reads fresh effect
  have log := justified_effect sequenced.log sequenced.backed sequenced.ordered effect
  have isJob := sequenced.isJob.effect effect
  exact ⟨sequenced.backed.step decides.1, sequenced.ordered.step sequenced.backed decides,
    ownOnly, log, isJob⟩

private theorem sequenced_start {tasks : TaskStore} (active : jobEnded job = false)
    (none : ∀ task ∈ tasks.items, listedFor job task = false) :
    Sequenced job (World.start job tasks) := by
  have noneOwned : ∀ task ∈ tasks.items, ownedBy job task = false := by
    intro task member
    exact ownedBy_of_unlisted (none task member)
  refine ⟨backed_start active noneOwned, ordered_start active noneOwned, ?_, justified_nil _, rfl⟩
  intro task member listed
  exact absurd (listed.symm.trans (none task member)) (by simp)

/-- An event that says nothing about the Job or its Tasks. -/
def Foreign (job : Bmc.Job) (event : Event) : Prop :=
  event.Passing ∧ ∀ before, Allowed job before event

theorem taskRef_ne_ownRef (foreign : ownedBy job task = false) (index : Nat) :
    taskRef task ≠ ownRef job index := by
  intro same
  have owner : controllerOf task = some (ownerReference job) :=
    congrArg TaskRef.owner same
  simp [ownedBy, owner] at foreign

theorem foreign_called (foreign : ownedBy job task = false) (call : BmcCall) (reply : CallReply) :
    Foreign job (.called (taskRef task) call reply) := by
  refine ⟨by simp [Event.Passing], ?_⟩
  intro before index isRef
  exact absurd isRef (taskRef_ne_ownRef foreign index)

private theorem foreign_readEvents (job : Bmc.Job) (task : Bmc.Task)
    (read : Except String String) :
    ∀ event ∈ World.readEvents task read, Foreign job event := by
  intro event member
  refine ⟨passing_readEvents task read event member, ?_⟩
  unfold World.readEvents at member
  split at member
  · rw [List.mem_singleton.mp member]
    intro _
    trivial
  · cases member

private theorem foreign_taskEvents (foreign : ownedBy job task = false) (status : Bmc.TaskStatus) :
    ∀ event ∈ World.taskEvents task status, Foreign job event := by
  intro event member
  refine ⟨passing_taskEvents task status event member, ?_⟩
  unfold World.taskEvents at member
  split at member
  · rw [List.mem_singleton.mp member]
    intro _
    trivial
  · split at member
    · rw [List.mem_singleton.mp member]
      intro before index isRef
      exact absurd isRef (taskRef_ne_ownRef foreign index)
    · cases member

/-- Nothing happens for a Job that had ended before the run. -/
structure Settled (job : Bmc.Job) (world : World) : Prop where
  isJob : world.job = job
  idle : world.jobRun = none
  none : ∀ task ∈ world.tasks.items, listedFor job task = false
  runs : ∀ name run, world.taskRuns name = some run → ownedBy job run.read = false
  silent : ∀ event ∈ world.log, Foreign job event

section

variable (settled : Settled job world)
include settled

theorem Settled.setTaskRun (name : String) (run : Option TaskRun)
    (foreign : ∀ next, run = some next → ownedBy job next.read = false) :
    Settled job (world.setTaskRun name run) := by
  refine ⟨settled.isJob, settled.idle, settled.none, ?_, settled.silent⟩
  intro other next inFlight
  rw [World.taskRuns_setTaskRun] at inFlight
  split at inFlight
  · exact foreign next inFlight
  · exact settled.runs other next inFlight

theorem Settled.record {events : List Event}
    (foreign : ∀ event ∈ events, Foreign job event) :
    Settled job (world.record events) := by
  refine ⟨settled.isJob, settled.idle, settled.none, settled.runs, ?_⟩
  intro event member
  rcases List.mem_append.mp member with old | new
  · exact settled.silent event old
  · exact foreign event new

theorem Settled.patchTask {status : Bmc.TaskStatus}
    (inFlight : world.taskRuns name = some ⟨task, .patching status⟩) :
    Settled job (((world.writeTask name task.status status).setTaskRun name Option.none).record
      (World.taskEvents task status)) := by
  have foreign := settled.runs name _ inFlight
  apply Settled.record
  · apply Settled.setTaskRun
    · refine ⟨settled.isJob, settled.idle, ?_, settled.runs, settled.silent⟩
      intro stored member
      obtain ⟨before, isItem, rfl⟩ := List.mem_map.mp member
      unfold ObjectStore.changeAt
      split <;> exact settled.none before isItem
    · intro next same
      cases same
  · exact foreign_taskEvents foreign status

theorem Settled.effect (ended : jobEnded job = true)
    (fresh : FreshReads world label) (effect : Effect world label after) :
    Settled job after := by
  have noRun : ∀ {run}, world.jobRun ≠ some run := by
    intro run inFlight
    rw [settled.idle] at inFlight
    cases inFlight
  cases effect with
  | idle => exact settled
  | dropJob => exact ⟨settled.isJob, rfl, settled.none, settled.runs, settled.silent⟩
  | beginJob _ _ _ active =>
    rw [settled.isJob, ended] at active
    cases active
  | decide _ _ _ _ _ inFlight | create _ _ _ _ _ inFlight => exact absurd inFlight noRun
  | refuse _ _ _ _ _ _ _ inFlight =>
    exact absurd inFlight noRun
  | patchJob _ _ _ inFlight => exact absurd inFlight noRun
  | beginTask _ _ task _ _ stored =>
    apply settled.setTaskRun
    intro next same
    cases same
    exact ownedBy_of_unlisted (settled.none task (ObjectStore.find_eq_some.mp stored).1)
  | dropTask =>
    apply settled.setTaskRun
    intro next same
    cases same
  | noAction name _ _ _ inFlight =>
    have foreign := settled.runs name _ inFlight
    apply settled.setTaskRun
    intro next same
    cases same
    exact foreign
  | call name reply _ _ call inFlight =>
    have foreign := settled.runs name _ inFlight
    apply Settled.record
    · apply settled.setTaskRun
      intro next same
      cases same
      exact foreign
    · intro event member
      rw [List.mem_singleton.mp member]
      exact foreign_called foreign call reply
  | check name _ read task inFlight =>
    have foreign := settled.runs name _ inFlight
    apply Settled.record
    · apply settled.setTaskRun
      intro next same
      obtain ⟨_, _, rfl⟩ := Option.map_eq_some_iff.mp same
      exact foreign
    · exact foreign_readEvents job task read
  | patchTask _ _ _ _ inFlight =>
    exact settled.patchTask inFlight
  | addTask =>
    refine ⟨settled.isJob, settled.idle, ?_, settled.runs, settled.silent⟩
    intro stored member
    rcases ObjectStore.mem_insert member with old | rfl
    · exact settled.none stored old
    · rw [← settled.isJob]
      exact fresh
  | removeTask =>
    refine ⟨settled.isJob, settled.idle, ?_, settled.runs, settled.silent⟩
    intro stored member
    exact settled.none stored (List.mem_filter.mp member).1

theorem Settled.step (ended : jobEnded job = true)
    (fresh : FreshReads world label) : Settled job (step world label) := by
  have acted := settled.effect ended fresh (undisturbed_of_fresh fresh).act_effect
  exact ⟨acted.isJob, acted.idle, acted.none, acted.runs, acted.silent⟩

end

/-- The state of the cluster and the log after any part of a run. -/
structure InSequence (job : Bmc.Job) (world : World) : Prop where
  isJob : IsJob job world.job
  log : Justified (Allowed job) world.log
  /-- The existing Tasks are those of the first actions, all but possibly the
  last completed. -/
  tasks : InOrder job (listedTasks job world.tasks)
  completed : .jobCompleted ∈ world.log → AllCompleted job (listedTasks job world.tasks)
  notBoth : ¬(.jobCompleted ∈ world.log ∧ .jobFailed ∈ world.log)
  /-- The conditions say what the log says. -/
  isCompleted : world.job.hasCondition .completed .true = true ↔
    job.hasCondition .completed .true = true ∨ .jobCompleted ∈ world.log
  isFailed : world.job.hasCondition .failed .true = true ↔
    job.hasCondition .failed .true = true ∨ .jobFailed ∈ world.log
  anyOrder : ∀ now first second,
    first.Perm (listedTasks job world.tasks) →
    second.Perm (listedTasks job world.tasks) →
    step world (.listTasks now (.ok first)) = step world (.listTasks now (.ok second))

private theorem step_listTasks_eq {world : World} (reads : Reads world) (now : Time)
    {first second : List Bmc.Task}
    (sameDecision : decideTasks world.job.tasks.length 0 first =
      decideTasks world.job.tasks.length 0 second) :
    step world (.listTasks now (.ok first)) = step world (.listTasks now (.ok second)) := by
  have sameAct : world.listTasks now (.ok first) = world.listTasks now (.ok second) := by
    unfold World.listTasks
    split
    · next _ _ _ inFlight =>
      obtain ⟨rfl, _⟩ := reads.job _ inFlight
      dsimp only
      rw [sameDecision]
    · rfl
  exact congrArg (fun acted : World => { acted with past := world.tasks :: world.past })
    sameAct

theorem Sequenced.inSequence (active : jobEnded job = false) (sequenced : Sequenced job world) :
    InSequence job world := by
  obtain ⟨notCompleted, notFailed⟩ := jobEnded_eq_false.mp active
  have isJob := sequenced.isJob
  have evidence := sequenced.backed.job
  have sameListed : listedTasks job world.tasks = world.own := by
    rw [← sequenced.ownOnly.listed_eq, isJob]
    rfl
  have order : InOrder job world.own := by
    have kept := sequenced.ordered.order
    rw [isJob] at kept
    exact ⟨kept.names, kept.actions, kept.earlier⟩
  have log : Justified (Allowed job) world.log := by
    have kept := sequenced.log
    rw [isJob] at kept
    intro before event after split
    have allowed := kept before event after split
    cases event <;> exact allowed
  have all : .jobCompleted ∈ world.log → AllCompleted job world.own := by
    intro logged
    have kept := sequenced.ordered.completed (evidence.completed.mp logged)
    rw [isJob] at kept
    exact kept
  refine ⟨isJob, log, ?_, ?_, ?_, ?_, ?_, ?_⟩
  · rw [sameListed]
    exact order
  · rw [sameListed]
    exact all
  · apply justified_exclusive (by simp) _ _ log
    · intro before allowed
      exact allowed.2
    · intro before allowed
      exact allowed.2
  · rw [notCompleted, evidence.completed]
    simp
  · rw [notFailed, evidence.failed]
    simp
  · intro now first second isFirst isSecond
    apply step_listTasks_eq sequenced.backed.reads
    rw [sameListed] at isFirst isSecond
    have unique := sequenced.ordered.order.oneUnfinished
    rw [← decideTasks_perm isFirst.symm unique, ← decideTasks_perm isSecond.symm unique]

theorem Settled.inSequence (settled : Settled job world) : InSequence job world := by
  have isEmpty : listedTasks job world.tasks = [] := by
    unfold listedTasks
    simpa using settled.none
  have notCompleted : .jobCompleted ∉ world.log := by
    intro logged
    exact (settled.silent _ logged).1.1 rfl
  have notFailed : .jobFailed ∉ world.log := by
    intro logged
    exact (settled.silent _ logged).1.2 rfl
  refine ⟨?_, ?_, ?_, ?_, ?_, ?_, ?_, ?_⟩
  · rw [settled.isJob]
    rfl
  · intro before event after split
    apply (settled.silent event _).2
    rw [split]
    simp
  · rw [isEmpty]
    exact inOrder_nil job
  · exact fun logged => absurd logged notCompleted
  · exact fun both => notCompleted both.1
  · rw [settled.isJob, or_iff_left notCompleted]
  · rw [settled.isJob, or_iff_left notFailed]
  · intro now first second isFirst isSecond
    rw [isEmpty] at isFirst isSecond
    rw [isFirst.eq_nil, isSecond.eq_nil]

/-- In every run that starts without a Task of the Job's name, whatever the BMC
answers and whichever writes fail, the actions of the Job run in order. -/
theorem actions_in_sequence (job : Bmc.Job) (tasks : TaskStore) (labels : List Label)
    (none : ∀ task ∈ tasks.items, listedFor job task = false)
    (fresh : Meets step FreshReads (World.start job tasks) labels) :
    InSequence job (run step (World.start job tasks) labels) := by
  cases ended : jobEnded job with
  | false =>
    apply Sequenced.inSequence ended
    apply run_invariant _ (sequenced_start ended none) fresh
    intro world label sequenced freshRead
    exact sequenced.step freshRead
  | true =>
    apply Settled.inSequence
    have start : Settled job (World.start job tasks) :=
      ⟨rfl, rfl, none, by simp [World.start], by simp [World.start]⟩
    apply run_invariant _ start fresh
    intro world label settled freshRead
    exact settled.step ended freshRead

/-! A Job with two actions, run to its end. -/

def bootJob : Bmc.Job where
  name := "boot"
  «namespace» := "metal"
  uid := "1"
  machineName := "node"
  machineNamespace := "metal"
  tasks := [{ powerAction := some .hardOff },
    { oneTimeBootDeviceAction := some { devices := [.pxe] } }]

def noTasks : TaskStore := ⟨[], .nil⟩

def reconcileJob (world : World) : List Label :=
  [.beginJob 1 (.ok {}),
    .listTasks 2 (.ok (listedTasks world.job world.tasks).reverse),
    .createTask .done, .patchJob .done]

def reconcileTask (name : String) : List Label :=
  [.beginTask name ⟨3, none, none⟩, .callBmc name .succeeded, .patchTask name .done,
    .beginTask name ⟨4, none, none⟩, .checkTask name 5 (.ok "off"), .patchTask name .done]

def bootRun : List Label :=
  let start := World.start bootJob noTasks
  let first := reconcileJob start ++ reconcileTask (Bmc.formatTaskName bootJob 0)
  let second := first ++ reconcileJob (run step start first) ++
    reconcileTask (Bmc.formatTaskName bootJob 1)
  second ++ reconcileJob (run step start second)

theorem actions_in_sequence_boot :
    InSequence bootJob (run step (World.start bootJob noTasks) bootRun) ∧
      (run step (World.start bootJob noTasks) bootRun).log =
        [.taskCreated (ownRef bootJob 0),
          .called (ownRef bootJob 0) (.setPowerState .hardOff) .succeeded,
          .powerRead (ownRef bootJob 0) .off, .taskCompleted (ownRef bootJob 0),
          .taskCreated (ownRef bootJob 1),
          .called (ownRef bootJob 1) (.setBootDevice "pxe" false false) .succeeded,
          .taskCompleted (ownRef bootJob 1), .jobCompleted] := by
  refine ⟨actions_in_sequence bootJob noTasks bootRun (by simp [noTasks]) ?_, ?_⟩
  · decide +kernel
  · decide +kernel

-- When the answer of a create is lost, the Job fails and the action is sent nevertheless.
example :
    (run step (World.start bootJob noTasks)
      ([.beginJob 1 (.ok {}), .listTasks 2 (.ok []), .createTask (.lost "timeout"),
        .patchJob .done] ++ reconcileTask (Bmc.formatTaskName bootJob 0))).log =
      [.taskCreated (ownRef bootJob 0), .createRefused (ownRef bootJob 0) (.other "timeout"),
        .jobFailed, .called (ownRef bootJob 0) (.setPowerState .hardOff) .succeeded,
        .powerRead (ownRef bootJob 0) .off, .taskCompleted (ownRef bootJob 0)] := by
  decide +kernel

end Tinkerbell.Rufio

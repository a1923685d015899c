import Mathlib.Data.List.Range
import Tinkerbell.Rufio.Evidence

/-!
Owns: the order in which a Job creates its Tasks: they are those of its first
actions, in order, and all but the last are completed.

The invariant is kept by every run in which the Job decides from its own Tasks
(`DecidesFromOwn`): the list it reads is up to date, and leftovers of another
Job of the same name in that list do not change the decision.
-/

namespace Tinkerbell.Rufio

open Api

structure InOrder (job : Bmc.Job) (own : List Bmc.Task) : Prop where
  names : own.map Bmc.Task.name =
    (List.range own.length).map (Bmc.formatTaskName job)
  actions : (own.map fun task => task.spec.task) = job.tasks.take own.length
  earlier : ∀ task ∈ own.dropLast, task.completed = true

theorem InOrder.length_le {job : Bmc.Job} {own : List Bmc.Task}
    (order : InOrder job own) : own.length ≤ job.tasks.length := by
  have lengths := congrArg List.length order.actions
  simp only [List.length_map, List.length_take] at lengths
  omega

theorem formatTaskName_injective {job : Bmc.Job} {first second : Nat}
    (same : Bmc.formatTaskName job first = Bmc.formatTaskName job second) :
    first = second := by
  have text : String.ofList (Nat.toDigits 10 first) =
      String.ofList (Nat.toDigits 10 second) := (String.append_right_inj _).mp same
  have digits : Nat.toDigits 10 first = Nat.toDigits 10 second :=
    String.ofList_injective text
  rw [← Nat.ofDigitChars_ten_toDigits (n := first), digits, Nat.ofDigitChars_ten_toDigits]

variable {task : Bmc.Task} {index : Nat} {action : Bmc.Action} {listed : List Bmc.Task}
  {world after : World} {tasks : TaskStore} {name : String} {run : TaskRun} {read updated : Bmc.Job}
  {connection : Bmc.Connection} {label : Label}

theorem InOrder.atIndex {job : Bmc.Job} {own : List Bmc.Task} (order : InOrder job own)
    (found : own[index]? = some task) :
    task.name = Bmc.formatTaskName job index ∧
      job.tasks[index]? = some task.spec.task := by
  have below : index < own.length := (List.getElem?_eq_some_iff.mp found).1
  constructor
  · have named := congrArg (fun names => names[index]?) order.names
    simp only [List.getElem?_map, found, List.getElem?_range below, Option.map_some,
      Option.some.injEq] at named
    exact named
  · have acts := congrArg (fun actions => actions[index]?) order.actions
    simp only [List.getElem?_map, found, List.getElem?_take_of_lt below, Option.map_some] at acts
    exact acts.symm

theorem InOrder.completed_of_lt {job : Bmc.Job} {own : List Bmc.Task} (order : InOrder job own)
    (found : own[index]? = some task) (later : index + 1 < own.length) :
    task.completed = true := by
  apply order.earlier
  rw [List.mem_iff_getElem?]
  refine ⟨index, ?_⟩
  rw [List.getElem?_dropLast, if_pos (by omega)]
  exact found

theorem InOrder.index_of_unfinished {job : Bmc.Job} {own : List Bmc.Task} (order : InOrder job own)
    (found : own[index]? = some task) (unfinished : task.completed = false) :
    index + 1 = own.length := by
  have below : index < own.length := (List.getElem?_eq_some_iff.mp found).1
  by_contra different
  have completed := order.completed_of_lt found (by omega)
  rw [unfinished] at completed
  cases completed

theorem InOrder.oneUnfinished {job : Bmc.Job} {own : List Bmc.Task}
    (order : InOrder job own) : OneUnfinished own := by
  intro first isFirst second isSecond firstOpen secondOpen
  obtain ⟨left, foundLeft⟩ := List.mem_iff_getElem?.mp isFirst
  obtain ⟨right, foundRight⟩ := List.mem_iff_getElem?.mp isSecond
  have leftLast := order.index_of_unfinished foundLeft firstOpen
  have rightLast := order.index_of_unfinished foundRight secondOpen
  have same : left = right := by omega
  subst same
  rw [foundLeft] at foundRight
  exact Option.some.inj foundRight

variable (job : Bmc.Job)

theorem inOrder_nil : InOrder job [] :=
  ⟨rfl, rfl, by simp⟩

theorem InOrder.append {job : Bmc.Job} {own : List Bmc.Task} (order : InOrder job own)
    (completed : ∀ task ∈ own, task.completed = true)
    (isAction : job.tasks[own.length]? = some action) (connection : Bmc.Connection) :
    InOrder job (own ++ [ownTask job own.length action connection]) := by
  refine ⟨?_, ?_, ?_⟩
  · rw [List.map_append, order.names, List.length_append, List.length_singleton,
      List.range_succ, List.map_append]
    rfl
  · rw [List.map_append, order.actions, List.length_append, List.length_singleton,
      List.take_add_one, isAction]
    rfl
  · rw [List.dropLast_concat]
    exact completed

theorem InOrder.map {job : Bmc.Job} {own : List Bmc.Task}
    (order : InOrder job own) {write : Bmc.Task → Bmc.Task}
    (sameName : ∀ task, (write task).name = task.name)
    (sameSpec : ∀ task, (write task).spec = task.spec)
    (keeps : ∀ task ∈ own, task.completed = true → write task = task) :
    InOrder job (own.map write) := by
  refine ⟨?_, ?_, ?_⟩
  · rw [List.map_map, List.length_map, ← order.names]
    exact List.map_congr_left fun task _ => sameName task
  · rw [List.map_map, List.length_map, ← order.actions]
    exact List.map_congr_left fun task _ => congrArg Bmc.TaskSpec.task (sameSpec task)
  · intro task member
    rw [← List.map_dropLast] at member
    obtain ⟨before, isBefore, rfl⟩ := List.mem_map.mp member
    have completed := order.earlier before isBefore
    rw [keeps before (List.dropLast_subset own isBefore) completed]
    exact completed

def OwnDecidesAt (job : Bmc.Job) (listed : List Bmc.Task) : Option Bmc.Task → Prop
  | some task => ownedBy job task = true ∨ task.failed = false ∧
      ((listed.filter (ownedBy job)).find? (fun task => !task.completed)).any
        (fun own => !own.failed) = true
  | none => ∀ task ∈ listed, ownedBy job task = true

/-- The list leads to the decision that the Job's own Tasks in it would lead
to: the first unfinished Task is the Job's own, or it is merely under way as is
one of the Job's own; or all Tasks are completed and all are the Job's own. -/
def OwnDecides (job : Bmc.Job) (listed : List Bmc.Task) : Prop :=
  OwnDecidesAt job listed (listed.find? fun task => !task.completed)

instance (job : Bmc.Job) (listed : List Bmc.Task) (first : Option Bmc.Task) :
    Decidable (OwnDecidesAt job listed first) := by
  unfold OwnDecidesAt
  split <;> infer_instance

instance (job : Bmc.Job) (listed : List Bmc.Task) : Decidable (OwnDecides job listed) :=
  inferInstanceAs (Decidable (OwnDecidesAt job listed _))

theorem find?_filter_of_first {own unfinished : Bmc.Task → Bool}
    (first : listed.find? unfinished = some task) (isOwn : own task = true) :
    (listed.filter own).find? unfinished = some task := by
  induction listed with
  | nil => cases first
  | cons head _ ih =>
    by_cases found : unfinished head = true
    · rw [List.find?_cons_of_pos found] at first
      cases first
      rw [List.filter_cons_of_pos isOwn, List.find?_cons_of_pos found]
    · rw [List.find?_cons_of_neg found] at first
      have later := ih first
      by_cases headOwn : own head = true
      · rw [List.filter_cons_of_pos headOwn, List.find?_cons_of_neg found]
        exact later
      · rw [List.filter_cons_of_neg headOwn]
        exact later

theorem decideTasks_own_iff_of_completed (actions : Nat)
    (completed : ∀ task ∈ listed, task.completed = true) :
    decideTasks actions 0 listed = decideTasks actions 0 (listed.filter (ownedBy job)) ↔
      ∀ task ∈ listed, ownedBy job task = true := by
  have ownCompleted : ∀ task ∈ listed.filter (ownedBy job), task.completed = true := by
    intro task member
    exact completed task (List.mem_filter.mp member).1
  rw [decideTasks_all_completed completed, decideTasks_all_completed ownCompleted,
    ← List.length_filter_eq_length_iff]
  simp only [Nat.zero_add]
  constructor
  · intro same
    split at same <;> split at same
    · omega
    · cases same
    · cases same
    · exact (Decision.create.inj same).symm
  · intro same
    rw [same]

theorem decideTasks_own_iff (actions : Nat) (listed : List Bmc.Task) :
    decideTasks actions 0 listed =
        decideTasks actions 0 (listed.filter (ownedBy job)) ↔
      OwnDecides job listed := by
  unfold OwnDecides OwnDecidesAt
  cases first : listed.find? (fun task => !task.completed) with
  | none =>
    apply decideTasks_own_iff_of_completed
    simpa using first
  | some task =>
    dsimp only
    rw [decideTasks_unfinished first]
    by_cases owned : ownedBy job task = true
    · rw [decideTasks_unfinished (find?_filter_of_first first owned)]
      simp [owned]
    · rw [or_iff_right owned]
      cases ownFirst : (listed.filter (ownedBy job)).find?
          (fun task => !task.completed) with
      | none =>
        have completed : ∀ task ∈ listed.filter (ownedBy job), task.completed = true := by
          simpa using ownFirst
        rw [decideTasks_all_completed completed]
        constructor
        · intro same
          split at same <;> split at same <;> cases same
        · rintro ⟨_, waits⟩
          simp at waits
      | some own =>
        have isOwn : ownedBy job own = true :=
          (List.mem_filter.mp (List.mem_of_find?_eq_some ownFirst)).2
        have different : task ≠ own := by
          rintro rfl
          exact owned isOwn
        rw [decideTasks_unfinished ownFirst]
        cases failed : task.failed <;> cases ownFailed : own.failed <;>
          simp [ownFailed, different]

def World.own (world : World) : List Bmc.Task := ownTasks world.job world.tasks

theorem World.mem_own :
    task ∈ world.own ↔ task ∈ world.tasks.items ∧ ownedBy world.job task = true :=
  List.mem_filter

theorem World.found_of_mem_own (member : task ∈ world.own) :
    world.tasks.find task.name = some task :=
  ObjectStore.find_eq_some.mpr ⟨(World.mem_own.mp member).1, rfl⟩

theorem ownTasks_insert {job : Bmc.Job} (free : tasks.find task.name = none)
    (owned : ownedBy job task = true) :
    ownTasks job (tasks.insert task) = ownTasks job tasks ++ [task] := by
  unfold ownTasks
  rw [ObjectStore.items_insert free, List.filter_append]
  simp [owned]

theorem ownTasks_insert_foreign {job : Bmc.Job} (foreign : ownedBy job task = false) :
    ownTasks job (tasks.insert task) = ownTasks job tasks := by
  cases taken : tasks.find task.name with
  | some => rw [ObjectStore.insert_taken taken]
  | none =>
    unfold ownTasks
    rw [ObjectStore.items_insert taken, List.filter_append]
    simp [foreign]

theorem ownTasks_remove_foreign {job : Bmc.Job}
    (foreign : ∀ task, tasks.find name = some task → ownedBy job task = false) :
    ownTasks job (tasks.remove name) = ownTasks job tasks := by
  unfold ownTasks ObjectStore.remove
  rw [List.filter_filter]
  apply List.filter_congr
  intro task member
  by_cases named : task.name = name
  · have found : tasks.find name = some task :=
      ObjectStore.find_eq_some.mpr ⟨member, named⟩
    simp [foreign task found]
  · simp [named]

theorem World.own_writeTask (world : World) (name : String)
    (read status : Bmc.TaskStatus) :
    (world.writeTask name read status).own =
      world.own.map (ObjectStore.changeAt Bmc.Task.name name fun task =>
        { task with status := patchTaskStatus read status task.status }) := by
  show (world.tasks.items.map _).filter _ = (world.tasks.items.filter _).map _
  rw [List.filter_map]
  congr 1
  apply List.filter_congr
  intro task _
  show ownedBy world.job (ObjectStore.changeAt _ _ _ task) = _
  unfold ObjectStore.changeAt
  split <;> rfl

theorem World.changeAt_ended {change : Bmc.Task → Bmc.Task} (reads : Reads world)
    (inFlight : world.taskRuns name = some run) (member : task ∈ world.own)
    (ended : taskEnded task.status = true) :
    ObjectStore.changeAt Bmc.Task.name name change task = task := by
  unfold ObjectStore.changeAt
  split
  · next named =>
    obtain ⟨found, active⟩ := reads.task name run inFlight
    rw [← named, World.found_of_mem_own member] at found
    rw [← Option.some.inj found, ended] at active
    cases active
  · rfl

theorem taskEnded_of_completed (completed : task.completed = true) :
    taskEnded task.status = true := by
  unfold taskEnded
  rw [show task.status.hasCondition .completed .true = true from completed]
  simp

theorem World.own_writeTask_ended (reads : Reads world) (inFlight : world.taskRuns name = some run)
    (ended : ∀ task ∈ world.own, taskEnded task.status = true) (read status : Bmc.TaskStatus) :
    (world.writeTask name read status).own = world.own := by
  rw [World.own_writeTask]
  conv_rhs => rw [← List.map_id world.own]
  apply List.map_congr_left
  intro task member
  exact World.changeAt_ended reads inFlight member (ended task member)

/-- The log shows why the Job may fail. -/
def FailureLogged (job : Bmc.Job) (log : List Event) : Prop :=
  (∃ index, .taskFailed (ownRef job index) ∈ log) ∨
    ∃ index refusal, .createRefused (ownRef job index) refusal ∈ log

/-- Every action has its completed Task. -/
def AllCompleted (job : Bmc.Job) (own : List Bmc.Task) : Prop :=
  own.length = job.tasks.length ∧ ∀ task ∈ own, task.completed = true

/-- No Task is under way any more, and the log shows a failure. -/
def Stopped (job : Bmc.Job) (own : List Bmc.Task) (log : List Event) : Prop :=
  (∀ task ∈ own, taskEnded task.status = true) ∧ FailureLogged job log

structure RunOrder (world : World) (run : JobRun) : Prop where
  creating : ∀ connection index, run.phase = .creating connection index →
    index = world.own.length ∧ index < world.job.tasks.length ∧
      ∀ task ∈ world.own, task.completed = true
  completing : run.updated.hasCondition .completed .true = true →
    AllCompleted world.job world.own
  failing : run.updated.hasCondition .failed .true = true →
    Stopped world.job world.own world.log

structure Ordered (world : World) : Prop where
  order : InOrder world.job world.own
  run : ∀ run, world.jobRun = some run → RunOrder world run
  completed : world.job.hasCondition .completed .true = true →
    AllCompleted world.job world.own
  failed : world.job.hasCondition .failed .true = true →
    Stopped world.job world.own world.log

theorem Stopped.append {job : Bmc.Job} {own : List Bmc.Task} {log : List Event}
    (stopped : Stopped job own log) (events : List Event) :
    Stopped job own (log ++ events) := by
  refine ⟨stopped.1, ?_⟩
  rcases stopped.2 with ⟨index, member⟩ | ⟨index, refusal, member⟩
  · exact Or.inl ⟨index, List.mem_append_left events member⟩
  · exact Or.inr ⟨index, refusal, List.mem_append_left events member⟩

theorem AllCompleted.ended {job : Bmc.Job} {own : List Bmc.Task}
    (all : AllCompleted job own) : ∀ task ∈ own, taskEnded task.status = true := by
  intro task member
  exact taskEnded_of_completed (all.2 task member)

theorem Ordered.grow (ordered : Ordered world) (events : List Event)
    (sameJob : after.job = world.job) (sameOwn : after.own = world.own)
    (sameRun : after.jobRun = world.jobRun) (grown : after.log = world.log ++ events) :
    Ordered after := by
  refine ⟨?_, ?_, ?_, ?_⟩
  · rw [sameJob, sameOwn]
    exact ordered.order
  · intro run inFlight
    rw [sameRun] at inFlight
    have known := ordered.run run inFlight
    refine ⟨?_, ?_, ?_⟩
    · rw [sameOwn, sameJob]
      exact known.creating
    · rw [sameOwn, sameJob]
      exact known.completing
    · intro failing
      rw [sameOwn, sameJob, grown]
      exact (known.failing failing).append events
  · rw [sameOwn, sameJob]
    exact ordered.completed
  · intro failed
    rw [sameJob] at failed
    rw [sameOwn, sameJob, grown]
    exact (ordered.failed failed).append events

def ListsOwn (world : World) : Label → Prop
  | .listTasks _ (.ok listed) =>
    listed.Perm (listedTasks world.job world.tasks) ∧ OwnDecides world.job listed
  | _ => True

instance (world : World) (label : Label) : Decidable (ListsOwn world label) := by
  unfold ListsOwn
  split <;> infer_instance

/-- The condition under which the order is kept. -/
def DecidesFromOwn (world : World) (label : Label) : Prop :=
  Undisturbed world label ∧ ListsOwn world label

instance (world : World) (label : Label) : Decidable (DecidesFromOwn world label) :=
  inferInstanceAs (Decidable (_ ∧ _))

theorem ownTasks_eq_filter (tasks : TaskStore) :
    (listedTasks job tasks).filter (ownedBy job) = ownTasks job tasks := by
  unfold listedTasks ownTasks
  rw [List.filter_filter]
  apply List.filter_congr
  intro task _
  cases owned : ownedBy job task with
  | false => simp
  | true => simp [listedFor_of_ownedBy owned]

theorem decision_eq_own (order : InOrder world.job world.own)
    (permuted : listed.Perm (listedTasks world.job world.tasks))
    (ownDecides : OwnDecides world.job listed) :
    decideTasks world.job.tasks.length 0 listed =
      decideTasks world.job.tasks.length 0 world.own := by
  rw [(decideTasks_own_iff world.job _ listed).mpr ownDecides]
  have ownPermuted : world.own.Perm (listed.filter (ownedBy world.job)) := by
    have filtered := permuted.filter (ownedBy world.job)
    rw [ownTasks_eq_filter] at filtered
    exact filtered.symm
  exact (decideTasks_perm ownPermuted order.oneUnfinished).symm

theorem InOrder.refAt (order : InOrder world.job world.own)
    (found : world.own[index]? = some task) :
    taskRef task = ownRef world.job index := by
  have owned : controllerOf task = some (ownerReference world.job) := by
    simpa [ownedBy] using (World.mem_own.mp (List.mem_of_getElem? found)).2
  rw [taskRef, ownRef, (order.atIndex found).1, owned]

theorem runOrder_of_active {run : JobRun}
    (active : jobEnded run.updated = false)
    (creating : ∀ connection index, run.phase = .creating connection index →
      index = world.own.length ∧ index < world.job.tasks.length ∧
        ∀ task ∈ world.own, task.completed = true) : RunOrder world run := by
  obtain ⟨notCompleted, notFailed⟩ := jobEnded_eq_false.mp active
  refine ⟨creating, ?_, ?_⟩
  · intro completed
    rw [notCompleted] at completed
    cases completed
  · intro failed
    rw [notFailed] at failed
    cases failed

theorem runOrder_failJob (message : String) (active : jobEnded updated = false)
    (stopped : Stopped world.job world.own world.log) :
    RunOrder world ⟨read, failJob message updated, .patching⟩ := by
  refine ⟨by simp, ?_, fun _ => stopped⟩
  intro completed
  rw [completed_failJob, (jobEnded_eq_false.mp active).1] at completed
  cases completed

theorem stopped_of_failed (order : InOrder world.job world.own)
    (evidence : TaskEvidence world) (member : task ∈ world.own)
    (unfinished : task.completed = false) (failed : task.failed = true) :
    Stopped world.job world.own world.log := by
  refine ⟨?_, Or.inl ?_⟩
  · intro other isOther
    cases completed : other.completed with
    | true => exact taskEnded_of_completed completed
    | false =>
      rw [order.oneUnfinished other isOther task member completed unfinished]
      unfold taskEnded
      rw [show task.status.hasCondition .failed .true = true from failed]
      rfl
  · obtain ⟨index, found⟩ := List.mem_iff_getElem?.mp member
    refine ⟨index, ?_⟩
    rw [← order.refAt found]
    exact (evidence.status task.name task (World.found_of_mem_own member)
      (World.mem_own.mp member).2).failed failed

theorem runOrder_decided {now : Time} {run next : JobRun} (order : InOrder world.job world.own)
    (evidence : TaskEvidence world) (active : jobEnded run.updated = false)
    (decided : World.decided now run connection
      (decideTasks world.job.tasks.length 0 world.own) = some next) :
    RunOrder world next := by
  cases first : world.own.find? (fun task => !task.completed) with
  | some task =>
    have member := List.mem_of_find?_eq_some first
    have unfinished : task.completed = false := by simpa using List.find?_some first
    rw [decideTasks_unfinished first] at decided
    split at decided
    · next failed =>
      cases decided
      exact runOrder_failJob _ active
        (stopped_of_failed order evidence member unfinished failed)
    · cases decided
  | none =>
    have completed : ∀ task ∈ world.own, task.completed = true := by simpa using first
    rw [decideTasks_all_completed completed, Nat.zero_add] at decided
    split at decided
    · next all =>
      cases decided
      refine ⟨by simp, fun _ => ⟨all, completed⟩, ?_⟩
      intro failed
      rw [failed_completeJob, (jobEnded_eq_false.mp active).2] at failed
      cases failed
    · next _ =>
      cases decided
      refine runOrder_of_active active ?_
      intro _ index isPhase
      cases isPhase
      have bound := order.length_le
      exact ⟨rfl, by omega, completed⟩

section

variable (ordered : Ordered world)
include ordered

theorem Ordered.patchTask (reads : Reads world) {status : Bmc.TaskStatus}
    {phase : TaskPhase} {events : List Event} (inFlight : world.taskRuns name = some ⟨task, phase⟩)
    (sameJob : after.job = world.job) (sameRun : after.jobRun = world.jobRun)
    (isOwn : after.own = (world.writeTask name task.status status).own)
    (grown : after.log = world.log ++ events) : Ordered after := by
  have kept : (∀ task ∈ world.own, taskEnded task.status = true) →
      after.own = world.own := by
    intro ended
    rw [isOwn]
    exact World.own_writeTask_ended reads inFlight ended task.status status
  refine ⟨?_, ?_, ?_, ?_⟩
  · rw [sameJob, isOwn, World.own_writeTask]
    apply ordered.order.map
    · intro stored
      apply ObjectStore.name_changeAt
      intro _
      rfl
    · intro stored
      unfold ObjectStore.changeAt
      split <;> rfl
    · intro stored member completed
      exact World.changeAt_ended reads inFlight member (taskEnded_of_completed completed)
  · intro run isRun
    rw [sameRun] at isRun
    have known := ordered.run run isRun
    refine ⟨?_, ?_, ?_⟩
    · intro connection index isPhase
      obtain ⟨isLength, below, completed⟩ := known.creating connection index isPhase
      rw [kept fun stored member => taskEnded_of_completed (completed stored member), sameJob]
      exact ⟨isLength, below, completed⟩
    · intro completing
      have all := known.completing completing
      rw [kept all.ended, sameJob]
      exact all
    · intro failing
      have stopped := known.failing failing
      rw [kept stopped.1, sameJob, grown]
      exact stopped.append events
  · intro completed
    rw [sameJob] at completed
    have all := ordered.completed completed
    rw [kept all.ended, sameJob]
    exact all
  · intro failed
    rw [sameJob] at failed
    have stopped := ordered.failed failed
    rw [kept stopped.1, sameJob, grown]
    exact stopped.append events

section

variable (backed : Backed world)
include backed

theorem Ordered.create
    (inFlight : world.jobRun = some ⟨read, updated, .creating connection index⟩)
    (isAction : read.tasks[index]? = some action)
    (free : world.tasks.find (Bmc.formatTaskName read index) = none) :
    Ordered (({ world with
        tasks := world.tasks.insert (ownTask read index action connection)
        jobRun := some ⟨read, updated, .patching⟩ } : World).record
      [.taskCreated (ownRef read index)]) := by
  obtain ⟨rfl, active⟩ := backed.reads.job _ inFlight
  have undecided := (backed.reads.consistent _ inFlight).undecided (by simp)
  obtain ⟨rfl, _, completed⟩ := (ordered.run _ inFlight).creating connection index rfl
  obtain ⟨notCompleted, notFailed⟩ := jobEnded_eq_false.mp active
  have isOwn := ownTasks_insert free
    (ownedBy_ownTask world.job world.own.length action connection)
  refine ⟨?_, ?_, ?_, ?_⟩
  · show InOrder world.job (ownTasks world.job (world.tasks.insert _))
    rw [isOwn]
    exact ordered.order.append completed isAction connection
  · intro run patching
    cases patching
    exact runOrder_of_active undecided (by simp)
  · intro ended
    rw [show world.job.hasCondition .completed .true = true from ended] at notCompleted
    cases notCompleted
  · intro ended
    rw [show world.job.hasCondition .failed .true = true from ended] at notFailed
    cases notFailed

theorem Ordered.patchJob
    (inFlight : world.jobRun = some ⟨read, updated, .patching⟩) :
    Ordered (({ world with
        job := patchJobStatus read updated world.job
        jobRun := none } : World).record (World.jobEvents updated)) := by
  obtain ⟨rfl, _⟩ := backed.reads.job _ inFlight
  have known := ordered.run _ inFlight
  have order := ordered.order
  refine ⟨⟨order.names, order.actions, order.earlier⟩, ?_, ?_, ?_⟩
  · intro run none
    cases none
  · intro completed
    change (patchJobStatus world.job updated world.job).hasCondition _ _ = _ at completed
    rw [hasCondition_patchJobStatus] at completed
    exact known.completing completed
  · intro failed
    change (patchJobStatus world.job updated world.job).hasCondition _ _ = _ at failed
    rw [hasCondition_patchJobStatus] at failed
    exact (known.failing failed).append _

theorem Ordered.effect
    (decides : DecidesFromOwn world label) (effect : Effect world label after) :
    Ordered after := by
  have same : world.log = world.log ++ [] := (List.append_nil _).symm
  cases effect with
  | idle => exact ordered
  | dropJob => exact ⟨ordered.order, by simp, ordered.completed, ordered.failed⟩
  | beginJob _ _ _ active =>
    refine ⟨ordered.order, ?_, ordered.completed, ordered.failed⟩
    intro run inFlight
    cases inFlight
    refine runOrder_of_active ?_ (by simp)
    rw [jobEnded_markRunning]
    exact active
  | decide _ _ _ _ _ inFlight =>
    obtain ⟨rfl, _⟩ := backed.reads.job _ inFlight
    have undecided := (backed.reads.consistent _ inFlight).undecided (by simp)
    refine ⟨ordered.order, ?_, ordered.completed, ordered.failed⟩
    intro next decided
    rw [decision_eq_own ordered.order decides.2.1 decides.2.2] at decided
    have known := runOrder_decided ordered.order backed.tasks undecided decided
    exact ⟨known.creating, known.completing, known.failing⟩
  | create _ _ _ _ _ inFlight isAction free =>
    exact ordered.create backed inFlight isAction free
  | refuse _ _ connection index _ _ refusal inFlight =>
    obtain ⟨rfl, _⟩ := backed.reads.job _ inFlight
    have undecided := (backed.reads.consistent _ inFlight).undecided (by simp)
    obtain ⟨_, _, completed⟩ := (ordered.run _ inFlight).creating connection index rfl
    refine ⟨ordered.order, ?_, ordered.completed, ?_⟩
    · intro run patching
      cases patching
      refine runOrder_failJob _ undecided ⟨?_, Or.inr ⟨index, refusal, ?_⟩⟩
      · intro task member
        exact taskEnded_of_completed (completed task member)
      · exact List.mem_append_right _ (List.mem_singleton_self _)
    · intro failed
      exact (ordered.failed failed).append _
  | patchJob _ _ _ inFlight =>
    exact ordered.patchJob backed inFlight
  | beginTask | dropTask | noAction => exact ordered.grow [] rfl rfl rfl same
  | call | check => exact ordered.grow _ rfl rfl rfl rfl
  | patchTask _ _ _ _ inFlight =>
    exact ordered.patchTask backed.reads inFlight rfl rfl rfl rfl
  | addTask =>
    exact ordered.grow [] rfl (ownTasks_insert_foreign decides.1) rfl same
  | removeTask name =>
    have foreign : ∀ task, world.tasks.find name = some task →
        ownedBy world.job task = false :=
      fun _ found => ownedBy_of_removed decides.1 found
    exact ordered.grow [] rfl (ownTasks_remove_foreign foreign) rfl same

theorem Ordered.step
    (decides : DecidesFromOwn world label) :
    Ordered (step world label) := by
  have acted := ordered.effect backed decides decides.1.act_effect
  apply acted.grow []
  · rfl
  · rfl
  · rfl
  · exact (List.append_nil _).symm

end

end

theorem ordered_start {job : Bmc.Job} (active : jobEnded job = false)
    (none : ∀ task ∈ tasks.items, ownedBy job task = false) :
    Ordered (World.start job tasks) := by
  obtain ⟨notCompleted, notFailed⟩ := jobEnded_eq_false.mp active
  have isEmpty : (World.start job tasks).own = [] := by
    show tasks.items.filter (ownedBy job) = []
    simpa using none
  refine ⟨?_, by simp [World.start], ?_, ?_⟩
  · rw [isEmpty]
    exact inOrder_nil job
  · intro completed
    rw [show job.hasCondition .completed .true = true from completed] at notCompleted
    cases notCompleted
  · intro failed
    rw [show job.hasCondition .failed .true = true from failed] at notFailed
    cases notFailed

end Tinkerbell.Rufio

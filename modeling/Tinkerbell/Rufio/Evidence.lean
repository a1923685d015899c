import Tinkerbell.Rufio.World

/-!
Owns: what the reconciles in flight and the conditions of the Job's own Tasks
say about the log.

`Reads` says that an object which a reconcile has read is still what is stored
when the reconcile writes, because every object has one writer. `TaskEvidence`
says that a Task condition, a recorded start, or a status about to be written
is backed by an entry of the log. `JobEvidence` does the same for the Job.
-/

namespace Tinkerbell.Rufio

open Api

/-- What other Jobs may do: nobody else creates Tasks for this Job, none of its
Tasks is removed, and no Task is removed in the middle of its reconcile. And no
Task is created with an answer that is lost. -/
def Undisturbed (world : World) : Label → Prop
  | .createTask reply => reply.isLost = false
  | .addTask task => ownedBy world.job task = false
  | .removeTask name => world.taskRuns name = none ∧
      (world.tasks.find name).all (fun task => !ownedBy world.job task) = true
  | _ => True

instance (world : World) (label : Label) : Decidable (Undisturbed world label) := by
  unfold Undisturbed
  split <;> infer_instance

variable {world after : World} {name : String} {task : Bmc.Task} {phase : TaskPhase} {label : Label}

theorem Undisturbed.act_effect (undisturbed : Undisturbed world label) :
    Effect world label (world.act label) := by
  apply world.act_effect
  rintro reply rfl
  exact undisturbed

theorem ownedBy_of_removed (undisturbed : Undisturbed world (.removeTask name))
    (found : world.tasks.find name = some task) : ownedBy world.job task = false := by
  have removed := undisturbed.2
  rw [found] at removed
  simpa using removed

theorem World.taskRuns_setTaskRun (world : World) (name : String)
    (run : Option TaskRun) (other : String) :
    (world.setTaskRun name run).taskRuns other =
      if other = name then run else world.taskRuns other := by
  simp [World.setTaskRun, Function.update_apply]

theorem World.find_writeTask (world : World) (name : String)
    (read status : Bmc.TaskStatus) (other : String) :
    (world.writeTask name read status).tasks.find other =
      if name = other then (world.tasks.find other).map fun task =>
        { task with status := patchTaskStatus read status task.status }
      else world.tasks.find other := by
  apply ObjectStore.find_modify
  intro task
  rfl

structure JobRun.Consistent (run : JobRun) : Prop where
  undecided : run.phase ≠ .patching → jobEnded run.updated = false
  exclusive : run.updated.hasCondition .completed .true = true →
    run.updated.hasCondition .failed .true = false

structure Reads (world : World) : Prop where
  job : ∀ run, world.jobRun = some run →
    run.read = world.job ∧ jobEnded world.job = false
  consistent : ∀ run, world.jobRun = some run → run.Consistent
  task : ∀ name run, world.taskRuns name = some run →
    world.tasks.find name = some run.read ∧ taskEnded run.read.status = false

variable {job read updated : Bmc.Job} {now : Time} {replies : ConnectReplies}

theorem jobEnded_eq_false :
    jobEnded job = false ↔ job.hasCondition .completed .true = false ∧
      job.hasCondition .failed .true = false := by
  simp [jobEnded]

variable {status : Bmc.TaskStatus} {run : JobRun} {log : List Event}

theorem taskEnded_eq_false :
    taskEnded status = false ↔ status.hasCondition .failed .true = false ∧
      status.hasCondition .completed .true = false := by
  simp [taskEnded]

theorem consistent_of_active (active : jobEnded run.updated = false) : run.Consistent :=
  ⟨fun _ => active, fun _ => (jobEnded_eq_false.mp active).2⟩

theorem consistent_failJob (message : String) (active : jobEnded updated = false) :
    JobRun.Consistent ⟨read, failJob message updated, .patching⟩ := by
  refine ⟨fun other => absurd rfl other, ?_⟩
  intro completed
  rw [completed_failJob, (jobEnded_eq_false.mp active).1] at completed
  cases completed

private theorem consistent_completeJob (now : Time) (active : jobEnded updated = false) :
    JobRun.Consistent ⟨read, completeJob now updated, .patching⟩ := by
  refine ⟨fun other => absurd rfl other, ?_⟩
  intro _
  rw [failed_completeJob]
  exact (jobEnded_eq_false.mp active).2

theorem jobEnded_markRunning (now : Time) (job : Bmc.Job) :
    jobEnded (markRunning now job) = jobEnded job := by
  simp [jobEnded]

private theorem decided_spec {next : JobRun} {connection : Bmc.Connection} {decision : Decision}
    (active : jobEnded run.updated = false)
    (decided : World.decided now run connection decision = some next) :
    next.read = run.read ∧ next.Consistent := by
  cases decision with
  | waiting => cases decided
  | taskFailed =>
    cases decided
    exact ⟨rfl, consistent_failJob _ active⟩
  | completed =>
    cases decided
    exact ⟨rfl, consistent_completeJob now active⟩
  | create =>
    cases decided
    exact ⟨rfl, consistent_of_active active⟩

section

variable (reads : Reads world)
include reads

theorem Reads.setTaskRun (name : String)
    (run : Option TaskRun)
    (current : ∀ next, run = some next →
      world.tasks.find name = some next.read ∧ taskEnded next.read.status = false) :
    Reads (world.setTaskRun name run) := by
  refine ⟨reads.job, reads.consistent, ?_⟩
  intro other next inFlight
  rw [World.taskRuns_setTaskRun] at inFlight
  split at inFlight
  · next same =>
    subst same
    exact current next inFlight
  · exact reads.task other next inFlight

theorem Reads.continueTask {before : TaskRun}
    (inFlight : world.taskRuns name = some before) (run : Option TaskRun)
    (sameRead : ∀ next, run = some next → next.read = before.read) :
    Reads (world.setTaskRun name run) := by
  apply reads.setTaskRun
  intro next isNext
  rw [sameRead next isNext]
  exact reads.task name before inFlight

theorem Reads.record (events : List Event) : Reads (world.record events) :=
  ⟨reads.job, reads.consistent, reads.task⟩

theorem Reads.setJobRun (run : Option JobRun)
    (current : ∀ next, run = some next →
      (next.read = world.job ∧ jobEnded world.job = false) ∧ next.Consistent) :
    Reads { world with jobRun := run } where
  job next isRun := (current next isRun).1
  consistent next isRun := (current next isRun).2
  task := reads.task

theorem Reads.addTask (task : Bmc.Task) :
    Reads (world.addTask task) where
  job := reads.job
  consistent := reads.consistent
  task name run inFlight :=
    (reads.task name run inFlight).imp_left ObjectStore.find_insert_of_found

theorem Reads.writeTask (name : String) (read status : Bmc.TaskStatus) :
    Reads ((world.writeTask name read status).setTaskRun name none) := by
  refine ⟨reads.job, reads.consistent, ?_⟩
  intro other run inFlight
  rw [World.taskRuns_setTaskRun] at inFlight
  split at inFlight
  · cases inFlight
  · next different =>
    have current := reads.task other run inFlight
    refine ⟨?_, current.2⟩
    change (world.writeTask name read status).tasks.find other = _
    rw [World.find_writeTask, if_neg (Ne.symm different)]
    exact current.1

theorem Reads.removeTask (free : world.taskRuns name = none) :
    Reads (world.removeTask name) := by
  refine ⟨reads.job, reads.consistent, ?_⟩
  intro other run inFlight
  have current := reads.task other run inFlight
  have different : name ≠ other := by
    rintro rfl
    rw [show world.taskRuns name = some run from inFlight] at free
    cases free
  refine ⟨?_, current.2⟩
  change (world.tasks.remove name).find other = _
  rw [ObjectStore.find_remove, if_neg different]
  exact current.1

end

theorem begins_active (begins : beginTask task replies = some phase) :
    taskEnded task.status = false := by
  unfold beginTask at begins
  split at begins
  · cases begins
  · next active =>
    simp only [Bool.or_eq_true, not_or, Bool.not_eq_true] at active
    exact active.2

theorem Reads.effect (reads : Reads world) (undisturbed : Undisturbed world label)
    (effect : Effect world label after) :
    Reads after := by
  cases effect with
  | idle => exact reads
  | dropJob => exact reads.setJobRun none (by simp)
  | beginJob _ _ _ active =>
    apply reads.setJobRun
    intro next same
    cases same
    refine ⟨⟨rfl, active⟩, consistent_of_active ?_⟩
    rw [jobEnded_markRunning]
    exact active
  | decide _ _ _ _ _ inFlight =>
    obtain ⟨isRead, active⟩ := reads.job _ inFlight
    have undecided := (reads.consistent _ inFlight).undecided (by simp)
    apply reads.setJobRun
    intro next decided
    obtain ⟨sameRead, consistent⟩ := decided_spec undecided decided
    exact ⟨⟨sameRead.trans isRead, active⟩, consistent⟩
  | create read updated connection index action inFlight =>
    have undecided := (reads.consistent _ inFlight).undecided (by simp)
    have isRead := reads.job _ inFlight
    have set := reads.setJobRun (some ⟨read, updated, .patching⟩) (by
      intro next same
      cases same
      exact ⟨isRead, consistent_of_active undecided⟩)
    exact (set.addTask (ownTask read index action connection)).record _
  | refuse _ _ _ _ _ _ _ inFlight =>
    have undecided := (reads.consistent _ inFlight).undecided (by simp)
    have isRead := reads.job _ inFlight
    apply Reads.record
    apply reads.setJobRun
    intro next same
    cases same
    exact ⟨isRead, consistent_failJob _ undecided⟩
  | patchJob =>
    refine ⟨?_, ?_, reads.task⟩
    · intro run none
      cases none
    · intro run none
      cases none
  | beginTask _ _ _ _ _ stored begins =>
    apply reads.setTaskRun
    intro next same
    cases same
    exact ⟨stored, begins_active begins⟩
  | dropTask =>
    apply reads.setTaskRun
    intro next same
    cases same
  | noAction _ _ _ _ inFlight =>
    apply reads.continueTask inFlight
    intro next same
    cases same
    rfl
  | call _ _ _ _ _ inFlight =>
    apply Reads.record
    apply reads.continueTask inFlight
    intro next same
    cases same
    rfl
  | check _ _ _ _ inFlight =>
    apply Reads.record
    apply reads.continueTask inFlight
    intro next same
    obtain ⟨_, _, rfl⟩ := Option.map_eq_some_iff.mp same
    rfl
  | patchTask name _ task status =>
    exact (reads.writeTask name task.status status).record _
  | addTask task => exact reads.addTask task
  | removeTask => exact reads.removeTask undisturbed.1

def Sent (log : List Event) (task : Bmc.Task) : Prop :=
  ∃ call, actionCall task.spec.task = .call call ∧
    .called (taskRef task) call .succeeded ∈ log

/-- The power state the action asks for, if any, was read. -/
def Confirmed (log : List Event) (task : Bmc.Task) : Prop :=
  ∀ state, requestedState task.spec.task = some state →
    .powerRead (taskRef task) state ∈ log

/-- What the log holds about a reconcile in flight. -/
inductive PhaseEvidence (log : List Event) (task : Bmc.Task) : TaskPhase → Prop where
  | calling {status : Bmc.TaskStatus} (active : taskEnded status = false) :
      PhaseEvidence log task (.calling status)
  | checking (sent : Sent log task) : PhaseEvidence log task .checking
  | failing {status : Bmc.TaskStatus}
      (failed : status.hasCondition .failed .true = true)
      (completed : status.hasCondition .completed .true = false) :
      PhaseEvidence log task (.patching status)
  | sent {status : Bmc.TaskStatus} (active : taskEnded status = false)
      (sent : Sent log task) : PhaseEvidence log task (.patching status)
  | done {status : Bmc.TaskStatus}
      (failed : status.hasCondition .failed .true = false)
      (completed : status.hasCondition .completed .true = true)
      (sent : Sent log task) (confirmed : Confirmed log task) :
      PhaseEvidence log task (.patching status)

/-- The conditions of a stored Task are backed by the log. -/
structure StatusEvidence (log : List Event) (task : Bmc.Task) : Prop where
  completed : task.completed = true → .taskCompleted (taskRef task) ∈ log
  failed : task.failed = true → .taskFailed (taskRef task) ∈ log
  sent : task.failed = false →
    taskStarted task.status = true ∨ task.completed = true → Sent log task

structure TaskEvidence (world : World) : Prop where
  status : ∀ name task, world.tasks.find name = some task →
    ownedBy world.job task = true → StatusEvidence world.log task
  phase : ∀ name run, world.taskRuns name = some run →
    ownedBy world.job run.read = true → PhaseEvidence world.log run.read run.phase

theorem Sent.append (sent : Sent log task) (events : List Event) : Sent (log ++ events) task := by
  obtain ⟨call, isCall, member⟩ := sent
  exact ⟨call, isCall, List.mem_append_left events member⟩

theorem Confirmed.append (confirmed : Confirmed log task) (events : List Event) :
    Confirmed (log ++ events) task := by
  intro state requested
  exact List.mem_append_left events (confirmed state requested)

theorem PhaseEvidence.append (evidence : PhaseEvidence log task phase) (events : List Event) :
    PhaseEvidence (log ++ events) task phase := by
  cases evidence with
  | calling active => exact .calling active
  | checking sent => exact .checking (sent.append events)
  | failing failed completed => exact .failing failed completed
  | sent active sent => exact .sent active (sent.append events)
  | done failed completed sent confirmed =>
    exact .done failed completed (sent.append events) (confirmed.append events)

theorem StatusEvidence.append (evidence : StatusEvidence log task) (events : List Event) :
    StatusEvidence (log ++ events) task where
  completed isCompleted := List.mem_append_left events (evidence.completed isCompleted)
  failed isFailed := List.mem_append_left events (evidence.failed isFailed)
  sent notFailed begun := (evidence.sent notFailed begun).append events

theorem TaskEvidence.record (evidence : TaskEvidence world) (events : List Event) :
    TaskEvidence (world.record events) where
  status name task found owned := (evidence.status name task found owned).append events
  phase name run inFlight owned := (evidence.phase name run inFlight owned).append events

theorem TaskEvidence.setTaskRun (evidence : TaskEvidence world)
    (name : String) (run : Option TaskRun)
    (backed : ∀ next, run = some next → ownedBy world.job next.read = true →
      PhaseEvidence world.log next.read next.phase) :
    TaskEvidence (world.setTaskRun name run) := by
  refine ⟨evidence.status, ?_⟩
  intro other next inFlight owned
  rw [World.taskRuns_setTaskRun] at inFlight
  split at inFlight
  · exact backed next inFlight owned
  · exact evidence.phase other next inFlight owned

theorem phaseEvidence_fail (message : String) (active : taskEnded status = false) :
    PhaseEvidence log task (.patching (failTask message status)) := by
  refine .failing (failed_failTask message status) ?_
  rw [completed_failTask]
  exact (taskEnded_eq_false.mp active).2

private theorem phaseEvidence_begin (evidence : StatusEvidence log task)
    (begins : beginTask task replies = some phase) :
    PhaseEvidence log task phase := by
  have active := begins_active begins
  have notFailed : task.failed = false := (taskEnded_eq_false.mp active).1
  unfold beginTask at begins
  split at begins
  · cases begins
  · split at begins
    · cases begins
    · split at begins
      · cases begins
        exact phaseEvidence_fail _ active
      · split at begins
        · next started =>
          dsimp only at begins
          split at begins
          · cases begins
            exact phaseEvidence_fail _ active
          · cases begins
            exact .checking (evidence.sent notFailed (Or.inl started))
        · cases begins
          refine .calling ?_
          rw [taskEnded_eq_false, hasCondition_startTask, hasCondition_startTask]
          exact taskEnded_eq_false.mp active

theorem phaseEvidence_call {call : BmcCall} (reply : CallReply) (active : taskEnded status = false)
    (isCall : actionCall task.spec.task = .call call) :
    PhaseEvidence (log ++ [.called (taskRef task) call reply]) task
      (.patching (afterCall task.spec.task status reply)) := by
  cases reply with
  | succeeded => exact .sent active ⟨call, isCall, by simp⟩
  | failed => exact phaseEvidence_fail _ active

private theorem confirmed_of_done {raw : String}
    (done : actionDone task.spec.task (toPowerState raw) = true) (log : List Event) :
    Confirmed (log ++ World.readEvents task (.ok raw)) task := by
  intro state requested
  have isState : toPowerState raw = state := by
    simpa [actionDone, requested] using done
  cases isPower : task.spec.task.powerAction with
  | none => simp [requestedState, isPower] at requested
  | some =>
    simp [World.readEvents, isPower, isState]

theorem phaseEvidence_check {read : Except String String} (active : taskEnded task.status = false)
    (sent : Sent log task) (checked : checkTask task now read = some status) :
    PhaseEvidence (log ++ World.readEvents task read) task (.patching status) := by
  have notFailed : (completeTask now task.status).hasCondition .failed .true = false := by
    rw [failed_completeTask]
    exact (taskEnded_eq_false.mp active).1
  have completed := completed_completeTask now task.status
  have sentStill := sent.append (World.readEvents task read)
  unfold checkTask at checked
  split at checked
  · next isDone =>
    cases checked
    refine .done notFailed completed sentStill ?_
    intro state requested
    rcases checkTaskStatus_done.mp isDone with noPower | ⟨raw, rfl, done⟩
    · simp [requestedState, noPower] at requested
    · exact confirmed_of_done done log state requested
  · cases checked

private theorem statusEvidence_written (evidence : PhaseEvidence log task (.patching status)) :
    StatusEvidence (log ++ World.taskEvents task status)
      { task with status := patchTaskStatus task.status status task.status } := by
  have sameCompleted : Bmc.Task.completed
      { task with status := patchTaskStatus task.status status task.status } =
        status.hasCondition .completed .true := hasCondition_patchTaskStatus _ _ _ _
  have sameFailed : Bmc.Task.failed
      { task with status := patchTaskStatus task.status status task.status } =
        status.hasCondition .failed .true := hasCondition_patchTaskStatus _ _ _ _
  cases evidence with
  | failing failed completed =>
    refine ⟨?_, ?_, ?_⟩
    · intro isCompleted
      rw [sameCompleted, completed] at isCompleted
      cases isCompleted
    · intro _
      apply List.mem_append_right
      rw [World.taskEvents, if_pos failed]
      exact List.mem_singleton_self _
    · intro notFailed
      rw [sameFailed, failed] at notFailed
      cases notFailed
  | sent active sent =>
    obtain ⟨notFailed, notCompleted⟩ := taskEnded_eq_false.mp active
    refine ⟨?_, ?_, fun _ _ => sent.append _⟩
    · intro isCompleted
      rw [sameCompleted, notCompleted] at isCompleted
      cases isCompleted
    · intro isFailed
      rw [sameFailed, notFailed] at isFailed
      cases isFailed
  | done failed completed sent =>
    refine ⟨?_, ?_, fun _ _ => sent.append _⟩
    · intro _
      apply List.mem_append_right
      rw [World.taskEvents, if_neg (by simp [failed]), if_pos completed]
      exact List.mem_singleton_self _
    · intro isFailed
      rw [sameFailed, failed] at isFailed
      cases isFailed

private theorem statusEvidence_ownTask (log : List Event) (job : Bmc.Job) (index : Nat)
    (action : Bmc.Action) (connection : Bmc.Connection) :
    StatusEvidence log (ownTask job index action connection) := by
  refine ⟨?_, ?_, ?_⟩
  · intro completed
    cases completed
  · intro failed
    cases failed
  · intro _ begun
    rcases begun with started | completed
    · cases started
    · cases completed

theorem TaskEvidence.patchTask (evidence : TaskEvidence world) (reads : Reads world)
    (inFlight : world.taskRuns name = some ⟨task, .patching status⟩) :
    TaskEvidence (((world.writeTask name task.status status).setTaskRun name none).record
      (World.taskEvents task status)) := by
  refine ⟨?_, ?_⟩
  · intro other stored found owned
    change (world.writeTask name task.status status).tasks.find other = _ at found
    rw [World.find_writeTask] at found
    split at found
    · next same =>
      subst same
      rw [(reads.task name _ inFlight).1] at found
      cases found
      exact statusEvidence_written (evidence.phase name _ inFlight owned)
    · exact (evidence.status other stored found owned).append _
  · intro other run inTask owned
    change (World.setTaskRun _ name none).taskRuns other = some run at inTask
    rw [World.taskRuns_setTaskRun] at inTask
    split at inTask
    · cases inTask
    · exact (evidence.phase other run inTask owned).append _

theorem TaskEvidence.effect (evidence : TaskEvidence world) (reads : Reads world)
    (undisturbed : Undisturbed world label) (effect : Effect world label after) :
    TaskEvidence after := by
  cases effect with
  | idle => exact evidence
  | dropJob | beginJob | decide => exact ⟨evidence.status, evidence.phase⟩
  | create read _ connection index action =>
    apply TaskEvidence.record
    refine ⟨?_, evidence.phase⟩
    intro name task found owned
    rcases ObjectStore.found_insert found with old | rfl
    · exact evidence.status name task old owned
    · exact statusEvidence_ownTask _ read index action connection
  | refuse | patchJob =>
    apply TaskEvidence.record
    exact ⟨evidence.status, evidence.phase⟩
  | beginTask name _ task _ _ stored begins =>
    apply evidence.setTaskRun
    intro next same owned
    cases same
    exact phaseEvidence_begin (evidence.status name task stored owned) begins
  | dropTask =>
    apply evidence.setTaskRun
    intro next same
    cases same
  | noAction name _ _ _ inFlight =>
    apply evidence.setTaskRun
    intro next same owned
    cases same
    cases evidence.phase name _ inFlight owned with
    | calling active => exact phaseEvidence_fail _ active
  | call name reply task _ call inFlight isCall =>
    have grown := evidence.record [.called (taskRef task) call reply]
    refine grown.setTaskRun name _ ?_
    intro next same owned
    cases same
    cases evidence.phase name _ inFlight owned with
    | calling active => exact phaseEvidence_call reply active isCall
  | check name _ read task inFlight =>
    have grown := evidence.record (World.readEvents task read)
    refine grown.setTaskRun name _ ?_
    intro next same owned
    obtain ⟨_, checked, rfl⟩ := Option.map_eq_some_iff.mp same
    cases evidence.phase name _ inFlight owned with
    | checking sent =>
      exact phaseEvidence_check (reads.task name _ inFlight).2 sent checked
  | patchTask _ _ _ _ inFlight =>
    exact evidence.patchTask reads inFlight
  | addTask =>
    refine ⟨?_, evidence.phase⟩
    intro name stored found owned
    rcases ObjectStore.found_insert found with old | rfl
    · exact evidence.status name stored old owned
    · have foreign : ownedBy world.job stored = false := undisturbed
      rw [show ownedBy world.job stored = true from owned] at foreign
      cases foreign
  | removeTask =>
    refine ⟨?_, evidence.phase⟩
    intro other stored found owned
    exact evidence.status other stored (ObjectStore.found_remove found) owned

structure JobEvidence (world : World) : Prop where
  completed : .jobCompleted ∈ world.log ↔
    world.job.hasCondition .completed .true = true
  failed : .jobFailed ∈ world.log ↔ world.job.hasCondition .failed .true = true

/-- An event that does not end the Job. -/
def Event.Passing (event : Event) : Prop :=
  event ≠ .jobCompleted ∧ event ≠ .jobFailed

theorem passing_taskEvents (task : Bmc.Task) (status : Bmc.TaskStatus) :
    ∀ event ∈ World.taskEvents task status, event.Passing := by
  intro event member
  unfold World.taskEvents at member
  split at member
  · simp [List.mem_singleton.mp member, Event.Passing]
  · split at member
    · simp [List.mem_singleton.mp member, Event.Passing]
    · cases member

theorem passing_readEvents (task : Bmc.Task) (read : Except String String) :
    ∀ event ∈ World.readEvents task read, event.Passing := by
  intro event member
  unfold World.readEvents at member
  split at member
  · simp [List.mem_singleton.mp member, Event.Passing]
  · cases member

section

variable (evidence : JobEvidence world)
include evidence

theorem JobEvidence.grow (events : List Event)
    (sameJob : after.job = world.job) (grown : after.log = world.log ++ events)
    (passing : ∀ event ∈ events, event.Passing) : JobEvidence after := by
  have kept : ∀ event, ¬event.Passing → (event ∈ after.log ↔ event ∈ world.log) := by
    intro event ends
    rw [grown, List.mem_append]
    exact or_iff_left fun member => ends (passing event member)
  refine ⟨?_, ?_⟩
  · rw [kept .jobCompleted (by simp [Event.Passing]), sameJob]
    exact evidence.completed
  · rw [kept .jobFailed (by simp [Event.Passing]), sameJob]
    exact evidence.failed

theorem JobEvidence.patchJob (active : jobEnded world.job = false)
    (consistent : run.Consistent) :
    JobEvidence (({ world with
      job := patchJobStatus world.job run.updated world.job
      jobRun := none } : World).record (World.jobEvents run.updated)) := by
  obtain ⟨notCompleted, notFailed⟩ := jobEnded_eq_false.mp active
  have freshCompleted : .jobCompleted ∉ world.log := by
    rw [evidence.completed, notCompleted]
    simp
  have freshFailed : .jobFailed ∉ world.log := by
    rw [evidence.failed, notFailed]
    simp
  refine ⟨?_, ?_⟩
  · show .jobCompleted ∈ world.log ++ World.jobEvents run.updated ↔
      (patchJobStatus world.job run.updated world.job).hasCondition .completed .true = true
    rw [hasCondition_patchJobStatus, List.mem_append, or_iff_right freshCompleted]
    unfold World.jobEvents
    split
    · next completed => simp [completed]
    · next completed =>
      split <;> simp [completed]
  · show .jobFailed ∈ world.log ++ World.jobEvents run.updated ↔
      (patchJobStatus world.job run.updated world.job).hasCondition .failed .true = true
    rw [hasCondition_patchJobStatus, List.mem_append, or_iff_right freshFailed]
    unfold World.jobEvents
    split
    · next completed => simp [consistent.exclusive completed]
    · split
      · next failed => simp [failed]
      · next failed => simp [failed]

theorem JobEvidence.effect (reads : Reads world)
    (effect : Effect world label after) : JobEvidence after := by
  cases effect with
  | patchJob _ _ _ inFlight =>
    obtain ⟨rfl, active⟩ := reads.job _ inFlight
    exact evidence.patchJob active (reads.consistent _ inFlight)
  | create | refuse | call => exact evidence.grow _ rfl rfl (by simp [Event.Passing])
  | check _ _ read task =>
    exact evidence.grow _ rfl rfl (passing_readEvents task read)
  | patchTask _ _ task status =>
    exact evidence.grow _ rfl rfl (passing_taskEvents task status)
  | _ => exact ⟨evidence.completed, evidence.failed⟩

end

structure Backed (world : World) : Prop where
  reads : Reads world
  tasks : TaskEvidence world
  job : JobEvidence world

theorem Backed.effect (backed : Backed world) (undisturbed : Undisturbed world label)
    (effect : Effect world label after) :
    Backed after where
  reads := backed.reads.effect undisturbed effect
  tasks := backed.tasks.effect backed.reads undisturbed effect
  job := backed.job.effect backed.reads effect

theorem Backed.step (backed : Backed world) (undisturbed : Undisturbed world label) :
    Backed (step world label) := by
  have acted := backed.effect undisturbed undisturbed.act_effect
  exact ⟨⟨acted.reads.job, acted.reads.consistent, acted.reads.task⟩,
    ⟨acted.tasks.status, acted.tasks.phase⟩, ⟨acted.job.completed, acted.job.failed⟩⟩

theorem backed_start {tasks : TaskStore} (active : jobEnded job = false)
    (none : ∀ task ∈ tasks.items, ownedBy job task = false) :
    Backed (World.start job tasks) where
  reads := ⟨by simp [World.start], by simp [World.start], by simp [World.start]⟩
  tasks := by
    refine ⟨?_, by simp [World.start]⟩
    intro name task found owned
    have foreign := none task (ObjectStore.find_eq_some.mp found).1
    rw [show ownedBy job task = true from owned] at foreign
    cases foreign
  job := by
    obtain ⟨notCompleted, notFailed⟩ := jobEnded_eq_false.mp active
    exact ⟨by simp [World.start, notCompleted], by simp [World.start, notFailed]⟩

end Tinkerbell.Rufio

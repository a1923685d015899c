import Tinkerbell.Rufio.Sequence

/-!
Owns: a Job among the Tasks that a deleted Job of the same name left behind.

The index returns Tasks by the name of their controlling Job, so a list can
hold Tasks of both. The Job still decides as its own Tasks would have it
exactly when `OwnDecides` holds of the list; in a run where this is so at every
list, the Job is completed only by Tasks it created itself.
-/

namespace Tinkerbell.Rufio

open Api
open History TransitionSystem

def RunByOwn (job : Bmc.Job) (log : List Event) (index : Nat) : Prop :=
  ∃ action call, job.tasks[index]? = some action ∧ actionCall action = .call call ∧
    .taskCreated (ownRef job index) ∈ log ∧
    .called (ownRef job index) call .succeeded ∈ log ∧
    .taskCompleted (ownRef job index) ∈ log

structure CountsOwn (job : Bmc.Job) (world : World) : Prop where
  completed : world.job.hasCondition .completed .true = true →
    ∀ index, index < job.tasks.length → RunByOwn job world.log index
  creating : ∀ run connection index, world.jobRun = some run →
    run.phase = .creating connection index → index < job.tasks.length

/-- The log shows the creation of each of the Job's own Tasks. -/
def CreationLogged (world : World) : Prop :=
  ∀ task ∈ world.own, .taskCreated (taskRef task) ∈ world.log

variable {world : World} {job : Bmc.Job}

variable {after : World} {label : Label}

theorem CreationLogged.grow (logged : CreationLogged world) (events : List Event)
    (sameOwn : after.own = world.own) (grown : after.log = world.log ++ events) :
    CreationLogged after := by
  intro task member
  rw [sameOwn] at member
  rw [grown]
  exact List.mem_append_left events (logged task member)

theorem CreationLogged.effect (logged : CreationLogged world) (reads : Reads world)
    (undisturbed : Undisturbed world label) (effect : Effect world label after) :
    CreationLogged after := by
  have same : world.log = world.log ++ [] := (List.append_nil _).symm
  cases effect with
  | create _ _ connection index action inFlight _ free =>
    obtain ⟨rfl, _⟩ := reads.job _ inFlight
    intro task member
    have isOwn := ownTasks_insert free
      (ownedBy_ownTask world.job index action connection)
    change task ∈ ownTasks world.job (world.tasks.insert _) at member
    rw [isOwn] at member
    rcases List.mem_append.mp member with old | new
    · exact List.mem_append_left _ (logged task old)
    · rw [List.mem_singleton.mp new, taskRef_ownTask]
      exact List.mem_append_right _ (List.mem_singleton_self _)
  | refuse | patchJob | call | check => exact logged.grow _ rfl rfl
  | patchTask name _ task status =>
    intro stored member
    change stored ∈ (world.writeTask name task.status status).own at member
    rw [World.own_writeTask] at member
    obtain ⟨before, isOwn, rfl⟩ := List.mem_map.mp member
    -- A status write does not change what the log calls the Task.
    have inLog := List.mem_append_left (World.taskEvents task status)
      (logged before isOwn)
    unfold ObjectStore.changeAt
    split <;> exact inLog
  | addTask =>
    exact logged.grow [] (ownTasks_insert_foreign undisturbed) same
  | removeTask name =>
    have foreign : ∀ task, world.tasks.find name = some task →
        ownedBy world.job task = false :=
      fun _ found => ownedBy_of_removed undisturbed found
    exact logged.grow [] (ownTasks_remove_foreign foreign) same
  | _ => exact logged

structure Counted (job : Bmc.Job) (world : World) : Prop where
  backed : Backed world
  ordered : Ordered world
  created : CreationLogged world
  log : Justified (Allowed world.job) world.log
  isJob : IsJob job world.job

theorem Counted.step (counted : Counted job world) (decides : DecidesFromOwn world label) :
    Counted job (step world label) := by
  have effect := decides.1.act_effect
  have created := counted.created.effect counted.backed.reads decides.1 effect
  have log := justified_effect counted.log counted.backed counted.ordered effect
  have isJob := counted.isJob.effect effect
  exact ⟨counted.backed.step decides.1, counted.ordered.step counted.backed decides,
    created, log, isJob⟩

theorem counted_start {tasks : TaskStore} (active : jobEnded job = false)
    (none : ∀ task ∈ tasks.items, ownedBy job task = false) :
    Counted job (World.start job tasks) := by
  refine ⟨backed_start active none, ordered_start active none, ?_, justified_nil _, rfl⟩
  intro task member
  obtain ⟨isItem, owned⟩ := World.mem_own.mp member
  exact absurd (owned.symm.trans (none task isItem)) (by simp)

theorem Counted.runByOwn (counted : Counted job world)
    (completed : world.job.hasCondition .completed .true = true) {index : Nat}
    (below : index < world.job.tasks.length) : RunByOwn world.job world.log index := by
  obtain ⟨isLength, all⟩ := counted.ordered.completed completed
  rw [← isLength] at below
  have isThere := List.getElem?_eq_getElem below
  have member := List.getElem_mem below
  have logged := completed_logged counted.backed counted.ordered.order isThere
    (all _ member)
  have created := counted.created _ member
  rw [counted.ordered.order.refAt isThere] at created
  -- What allowed the completion is still in the log.
  obtain ⟨_, isEarlier, allowed⟩ := justified_mem counted.log logged
  obtain ⟨action, call, isAction, isCall, called, _⟩ := allowed index rfl
  exact ⟨action, call, isAction, isCall, created, isEarlier _ called, logged⟩

theorem Counted.countsOwn (counted : Counted job world) : CountsOwn job world := by
  have isJob := counted.isJob
  refine ⟨?_, ?_⟩
  · intro completed index below
    have byOwn : RunByOwn world.job world.log index := by
      apply counted.runByOwn completed
      rw [isJob]
      exact below
    rw [isJob] at byOwn
    exact byOwn
  · intro run connection index inFlight isPhase
    have known := ((counted.ordered.run run inFlight).creating connection index isPhase).2.1
    rw [isJob] at known
    exact known

/-- A list decides as the Job's own Tasks in it do exactly under `OwnDecides`,
and in a run where every list does, a Job is completed by its own Tasks only
and never looks for an action beyond its last one. -/
theorem job_counts_own_tasks (job : Bmc.Job) :
    (∀ listed, decideTasks job.tasks.length 0 listed =
        decideTasks job.tasks.length 0 (listed.filter (ownedBy job)) ↔
      OwnDecides job listed) ∧
    ∀ tasks labels, jobEnded job = false →
      (∀ task ∈ tasks.items, ownedBy job task = false) →
      Meets step DecidesFromOwn (World.start job tasks) labels →
      CountsOwn job (run step (World.start job tasks) labels) := by
  refine ⟨decideTasks_own_iff job job.tasks.length, ?_⟩
  intro tasks labels active none decides
  apply Counted.countsOwn
  apply run_invariant _ (counted_start active none) decides
  intro world label counted decidesOwn
  exact counted.step decidesOwn

def leftovers : TaskStore where
  items :=
    let deleted : Bmc.Job := { bootJob with uid := "0" }
    let status : Bmc.TaskStatus := completeTask 0 {}
    [{ ownTask deleted 0 { powerAction := some .on } {} with status },
      { ownTask deleted 1 { powerAction := some .on } {} with status }]
  distinct := by decide

def removeFirst : List Label :=
  .removeTask (Bmc.formatTaskName bootJob 0) ::
    .removeTask (Bmc.formatTaskName bootJob 1) :: bootRun

theorem job_counts_own_tasks_removed :
    CountsOwn bootJob (run step (World.start bootJob leftovers) removeFirst) ∧
      (run step (World.start bootJob leftovers) removeFirst).job.hasCondition
        .completed .true = true := by
  refine ⟨(job_counts_own_tasks bootJob).2 leftovers removeFirst ?_ ?_ ?_, ?_⟩
  · decide
  · decide
  · decide +kernel
  · decide +kernel

/-- One reconcile among the leftovers: the Job is completed without any Task or
call of its own, and a shorter Job goes on to its third action. -/
theorem leftovers_complete_job :
    (let labels := [.beginJob 1 (.ok {}), .listTasks 2 (.ok leftovers.items), .patchJob .done]
    let world := run step (World.start bootJob leftovers) labels
    leftovers.items = listedTasks bootJob leftovers ∧
      ownTasks bootJob world.tasks = [] ∧
      world.log = [.jobCompleted] ∧
      world.job.hasCondition .completed .true = true) ∧
    (let short := { bootJob with tasks := bootJob.tasks.take 1 }
    let labels := [.beginJob 1 (.ok {}), .listTasks 2 (.ok leftovers.items)]
    let world := run step (World.start short leftovers) labels
    world.jobRun.map JobRun.phase = some (.creating {} 2)) := by
  decide +kernel

end Tinkerbell.Rufio

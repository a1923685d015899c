import Mathlib.Logic.Function.Basic
import Tinkerbell.Controller.Client
import Tinkerbell.Library.ObjectStore
import Tinkerbell.Library.TransitionSystem
import Tinkerbell.Rufio.Job
import Tinkerbell.Rufio.Task

/-!
Owns: the BMC controller as a transition system around one Job: its stored
status, the Tasks of its namespace, the reconciles in flight, and the log of
everything that was sent, read and recorded.

A reconcile is several steps: it reads, it decides, it calls the server or the
BMC, it writes its status. Steps of different reconciles interleave freely;
there is at most one reconcile in flight for the Job and at most one for each
Task. Every answer of the server and of the BMC is data of the label. A write
may be done, refused, or done although its answer is lost.

Besides the Job's own reconciles, Tasks of other Jobs come and go. `past` keeps
the earlier Task sets, which a cache that lags behind may still show.
-/

namespace Tinkerbell.Rufio

open Api
open Controller (WriteReply)

/-- The Tasks of a namespace. -/
abbrev TaskStore := ObjectStore Bmc.Task.name

/-- What the log calls a Task: its name and who controls it. -/
structure TaskRef where
  name : String
  owner : Option Bmc.OwnerReference
deriving DecidableEq

def taskRef (task : Bmc.Task) : TaskRef := ⟨task.name, controllerOf task⟩

def ownRef (job : Bmc.Job) (index : Nat) : TaskRef :=
  ⟨Bmc.formatTaskName job index, some (ownerReference job)⟩

/-- Why the server does not create a Task. -/
inductive Refusal where
  /-- The very Task to be created exists already. -/
  | sameTask
  /-- The name is taken by a Task that is not the Job's. -/
  | nameTaken
  | other (err : String)
deriving DecidableEq

def Refusal.message (name : String) : Refusal → String
  | .other err => err
  | _ => "tasks.bmc.tinkerbell.org \"" ++ name ++ "\" already exists"

inductive Event where
  | called (task : TaskRef) (call : BmcCall) (reply : CallReply)
  | powerRead (task : TaskRef) (state : Bmc.PowerState)
  | taskCreated (task : TaskRef)
  | createRefused (task : TaskRef) (refusal : Refusal)
  | taskCompleted (task : TaskRef)
  | taskFailed (task : TaskRef)
  | jobCompleted
  | jobFailed
deriving DecidableEq

/-- What a Job reconcile does next. -/
inductive JobPhase where
  | listing (connection : Bmc.Connection)
  | creating (connection : Bmc.Connection) (index : Nat)
  | patching
deriving DecidableEq

structure JobRun where
  (read updated : Bmc.Job)
  phase : JobPhase

/-- A Task reconcile in flight, with the Task it read. -/
structure TaskRun where
  read : Bmc.Task
  phase : TaskPhase

structure World where
  job : Bmc.Job
  tasks : TaskStore
  jobRun : Option JobRun := none
  taskRuns : String → Option TaskRun := fun _ => none
  log : List Event := []
  past : List TaskStore := []

inductive Label where
  /-- Read the Job and its machine. -/
  | beginJob (now : Time) (machine : Except String Bmc.Connection)
  /-- List the Tasks of the Job's name and decide. -/
  | listTasks (now : Time) (reply : Except String (List Bmc.Task))
  | createTask (reply : WriteReply)
  | patchJob (reply : WriteReply)
  /-- Read a Task and connect to the BMC. -/
  | beginTask (name : String) (replies : ConnectReplies)
  | callBmc (name : String) (reply : CallReply)
  | checkTask (name : String) (now : Time) (read : Except String String)
  | patchTask (name : String) (reply : WriteReply)
  /-- A Task of another Job is created. -/
  | addTask (task : Bmc.Task)
  /-- A Task is removed from the cluster. -/
  | removeTask (name : String)

def listedTasks (job : Bmc.Job) (tasks : TaskStore) : List Bmc.Task :=
  tasks.items.filter (listedFor job)

def ownTasks (job : Bmc.Job) (tasks : TaskStore) : List Bmc.Task :=
  tasks.items.filter (ownedBy job)

namespace World

variable (world : World)

def setTaskRun (name : String) (run : Option TaskRun) : World :=
  { world with taskRuns := Function.update world.taskRuns name run }

def record (events : List Event) : World :=
  { world with log := world.log ++ events }

def beginJob (now : Time) (machine : Except String Bmc.Connection) : World :=
  match world.jobRun, machine with
  | none, .ok connection =>
    if world.job.deletionTimestamp.isSome || jobEnded world.job then world
    else { world with
      jobRun := some ⟨world.job, markRunning now world.job, .listing connection⟩ }
  | _, _ => world

def decided (now : Time) (run : JobRun) (connection : Bmc.Connection) :
    Decision → Option JobRun
  | .waiting => none
  | .taskFailed task => some
      ⟨run.read, failJob (taskFailedMessage task) run.updated, .patching⟩
  | .completed => some ⟨run.read, completeJob now run.updated, .patching⟩
  | .create index => some ⟨run.read, run.updated, .creating connection index⟩

def listTasks (now : Time) (reply : Except String (List Bmc.Task)) : World :=
  match world.jobRun with
  | some ⟨read, updated, .listing connection⟩ =>
    match reply with
    | .error _ => { world with jobRun := none }
    | .ok listed => { world with
        jobRun := decided now ⟨read, updated, .listing connection⟩ connection
          (decideTasks read.tasks.length 0 listed) }
  | _ => world

def createAnswer (task : Bmc.Task) : WriteReply → Option Refusal
  | .refused err | .lost err => some (.other err)
  | .done =>
    match world.tasks.find task.name with
    | some existing =>
      some (if ownedBy world.job existing then .sameTask else .nameTaken)
    | none => none

/-- The answer is lost: the Task is created and the reconcile is told that it was not. -/
def createUnseen (task : Bmc.Task) (reply : WriteReply) : World :=
  if reply.isLost ∧ world.tasks.find task.name = none then
    ({ world with tasks := world.tasks.insert task } : World).record [.taskCreated (taskRef task)]
  else world

def createTask (reply : WriteReply) : World :=
  match world.jobRun with
  | some ⟨read, updated, .creating connection index⟩ =>
    match read.tasks[index]? with
    | none =>
      -- The index is out of range: the reconcile stops without a write.
      { world with jobRun := none }
    | some action =>
      let task := ownTask read index action connection
      match world.createAnswer task reply with
      | none =>
        ({ world with
            tasks := world.tasks.insert task
            jobRun := some ⟨read, updated, .patching⟩ } : World).record
          [.taskCreated (taskRef task)]
      | some refusal =>
        ({ world.createUnseen task reply with
            jobRun := some ⟨read, failJob (createFailedMessage read index
              (refusal.message task.name)) updated, .patching⟩ } : World).record
          [.createRefused (taskRef task) refusal]
  | _ => world

def jobEvents (updated : Bmc.Job) : List Event :=
  if updated.hasCondition .completed .true then [.jobCompleted]
  else if updated.hasCondition .failed .true then [.jobFailed]
  else []

def patchJob (reply : WriteReply) : World :=
  match world.jobRun with
  | some ⟨read, updated, .patching⟩ =>
    if reply.TookEffect then
      ({ world with
          job := patchJobStatus read updated world.job
          jobRun := none } : World).record (jobEvents updated)
    else { world with jobRun := none }
  | _ => world

def beginTask (name : String) (replies : ConnectReplies) : World :=
  match world.taskRuns name, world.tasks.find name with
  | none, some task =>
    match Rufio.beginTask task replies with
    | none => world
    | some phase => world.setTaskRun name (some ⟨task, phase⟩)
  | _, _ => world

def callBmc (name : String) (reply : CallReply) : World :=
  match world.taskRuns name with
  | some ⟨task, .calling status⟩ =>
    match actionCall task.spec.task with
    | .panics => world.setTaskRun name none
    | .nothing => world.setTaskRun name (some ⟨task, .patching
        (failTask "no action specified in Task, nothing to do" status)⟩)
    | .call call =>
      (world.setTaskRun name (some ⟨task, .patching
        (afterCall task.spec.task status reply)⟩)).record
        [.called (taskRef task) call reply]
  | _ => world

def readEvents (task : Bmc.Task) (read : Except String String) : List Event :=
  match task.spec.task.powerAction, read with
  | some _, .ok raw => [.powerRead (taskRef task) (toPowerState raw)]
  | _, _ => []

def checkTask (name : String) (now : Time) (read : Except String String) : World :=
  match world.taskRuns name with
  | some ⟨task, .checking⟩ =>
    (world.setTaskRun name ((Rufio.checkTask task now read).map
      fun status => ⟨task, .patching status⟩)).record (readEvents task read)
  | _ => world

def taskEvents (task : Bmc.Task) (status : Bmc.TaskStatus) : List Event :=
  if status.hasCondition .failed .true then [.taskFailed (taskRef task)]
  else if status.hasCondition .completed .true then [.taskCompleted (taskRef task)]
  else []

def writeTask (name : String) (read status : Bmc.TaskStatus) : World :=
  { world with
    tasks := world.tasks.modify name
      (fun task => { task with status := patchTaskStatus read status task.status })
      (fun _ => rfl) }

def patchTask (name : String) (reply : WriteReply) : World :=
  match world.taskRuns name with
  | some ⟨task, .patching status⟩ =>
    if reply.TookEffect ∧ world.tasks.find name ≠ none then
      ((world.writeTask name task.status status).setTaskRun name none).record
        (taskEvents task status)
    else world.setTaskRun name none
  | _ => world

def addTask (task : Bmc.Task) : World :=
  { world with tasks := world.tasks.insert task }

def removeTask (name : String) : World :=
  { world with tasks := world.tasks.remove name }

def act : Label → World
  | .beginJob now machine => world.beginJob now machine
  | .listTasks now reply => world.listTasks now reply
  | .createTask reply => world.createTask reply
  | .patchJob reply => world.patchJob reply
  | .beginTask name replies => world.beginTask name replies
  | .callBmc name reply => world.callBmc name reply
  | .checkTask name now read => world.checkTask name now read
  | .patchTask name reply => world.patchTask name reply
  | .addTask task => world.addTask task
  | .removeTask name => world.removeTask name

def start (job : Bmc.Job) (tasks : TaskStore) : World := { job, tasks }

end World

def step (world : World) (label : Label) : World :=
  { world.act label with past := world.tasks :: world.past }

inductive Effect (world : World) : Label → World → Prop where
  | idle (label : Label) : Effect world label world
  | dropJob (label : Label) : Effect world label { world with jobRun := none }
  | beginJob (now : Time) (connection : Bmc.Connection)
      (free : world.jobRun = none) (active : jobEnded world.job = false) :
      Effect world (.beginJob now (.ok connection)) { world with
        jobRun := some ⟨world.job, markRunning now world.job, .listing connection⟩ }
  | decide (now : Time) (read updated : Bmc.Job) (connection : Bmc.Connection)
      (listed : List Bmc.Task)
      (inFlight : world.jobRun = some ⟨read, updated, .listing connection⟩) :
      Effect world (.listTasks now (.ok listed)) { world with
        jobRun := World.decided now ⟨read, updated, .listing connection⟩ connection
          (decideTasks read.tasks.length 0 listed) }
  | create (read updated : Bmc.Job) (connection : Bmc.Connection) (index : Nat)
      (action : Bmc.Action)
      (inFlight : world.jobRun = some ⟨read, updated, .creating connection index⟩)
      (isAction : read.tasks[index]? = some action)
      (free : world.tasks.find (Bmc.formatTaskName read index) = none) :
      Effect world (.createTask .done)
        (({ world with
            tasks := world.tasks.insert (ownTask read index action connection)
            jobRun := some ⟨read, updated, .patching⟩ } : World).record
          [.taskCreated (ownRef read index)])
  | refuse (read updated : Bmc.Job) (connection : Bmc.Connection) (index : Nat)
      (action : Bmc.Action) (reply : WriteReply) (refusal : Refusal)
      (inFlight : world.jobRun = some ⟨read, updated, .creating connection index⟩)
      (isAction : read.tasks[index]? = some action)
      (answer : world.createAnswer (ownTask read index action connection) reply =
        some refusal) :
      Effect world (.createTask reply)
        (({ world with
            jobRun := some ⟨read, failJob (createFailedMessage read index
              (refusal.message (Bmc.formatTaskName read index))) updated,
              .patching⟩ } : World).record
          [.createRefused (ownRef read index) refusal])
  | patchJob (reply : WriteReply) (read updated : Bmc.Job)
      (inFlight : world.jobRun = some ⟨read, updated, .patching⟩) :
      Effect world (.patchJob reply)
        (({ world with
            job := patchJobStatus read updated world.job
            jobRun := none } : World).record (World.jobEvents updated))
  | beginTask (name : String) (replies : ConnectReplies) (task : Bmc.Task)
      (phase : TaskPhase) (free : world.taskRuns name = none)
      (stored : world.tasks.find name = some task)
      (begins : beginTask task replies = some phase) :
      Effect world (.beginTask name replies)
        (world.setTaskRun name (some ⟨task, phase⟩))
  | dropTask (label : Label) (name : String) :
      Effect world label (world.setTaskRun name none)
  | noAction (name : String) (reply : CallReply) (task : Bmc.Task)
      (status : Bmc.TaskStatus)
      (inFlight : world.taskRuns name = some ⟨task, .calling status⟩)
      (nothing : actionCall task.spec.task = .nothing) :
      Effect world (.callBmc name reply)
        (world.setTaskRun name (some ⟨task, .patching
          (failTask "no action specified in Task, nothing to do" status)⟩))
  | call (name : String) (reply : CallReply) (task : Bmc.Task)
      (status : Bmc.TaskStatus) (call : BmcCall)
      (inFlight : world.taskRuns name = some ⟨task, .calling status⟩)
      (isCall : actionCall task.spec.task = .call call) :
      Effect world (.callBmc name reply)
        ((world.setTaskRun name (some ⟨task, .patching
          (afterCall task.spec.task status reply)⟩)).record
          [.called (taskRef task) call reply])
  | check (name : String) (now : Time) (read : Except String String)
      (task : Bmc.Task) (inFlight : world.taskRuns name = some ⟨task, .checking⟩) :
      Effect world (.checkTask name now read)
        ((world.setTaskRun name ((checkTask task now read).map
          fun status => ⟨task, .patching status⟩)).record
          (World.readEvents task read))
  | patchTask (name : String) (reply : WriteReply) (task : Bmc.Task)
      (status : Bmc.TaskStatus)
      (inFlight : world.taskRuns name = some ⟨task, .patching status⟩) :
      Effect world (.patchTask name reply)
        (((world.writeTask name task.status status).setTaskRun name none).record
          (World.taskEvents task status))
  | addTask (task : Bmc.Task) : Effect world (.addTask task) (world.addTask task)
  | removeTask (name : String) : Effect world (.removeTask name) (world.removeTask name)

theorem taskRef_ownTask (job : Bmc.Job) (index : Nat) (action : Bmc.Action)
    (connection : Bmc.Connection) :
    taskRef (ownTask job index action connection) = ownRef job index := by
  simp [taskRef, ownRef, controllerOf, ownTask, ownerReference]

theorem World.createTask_effect (world : World) {reply : WriteReply}
    (answered : reply.isLost = false) :
    Effect world (.createTask reply) (world.createTask reply) := by
  have seen : ∀ task, world.createUnseen task reply = world := by
    intro task
    simp [World.createUnseen, answered]
  unfold World.createTask
  split
  · next read updated connection index inFlight =>
    split
    · exact .dropJob _
    · next action isAction =>
      dsimp only
      split
      · next created =>
        cases reply with
        | refused | lost => cases created
        | done =>
          refine .create read updated connection index action inFlight isAction ?_
          cases found : world.tasks.find (Bmc.formatTaskName read index) with
          | none => rfl
          | some =>
            simp only [World.createAnswer, ownTask, found] at created
            cases created
      · next refusal answer =>
        rw [seen]
        exact .refuse read updated connection index action reply refusal
          inFlight isAction answer
  · exact .idle _

/-- What a step does, unless it is a create whose answer is lost. -/
theorem World.act_effect (world : World) (label : Label)
    (answered : ∀ reply, label = .createTask reply → reply.isLost = false) :
    Effect world label (world.act label) := by
  cases label with
  | beginJob now machine =>
    show Effect world _ (world.beginJob now machine)
    unfold World.beginJob
    split
    · next connection free =>
      split
      · exact .idle _
      · next active =>
        refine .beginJob now connection free ?_
        simp only [Bool.or_eq_true, not_or, Bool.not_eq_true] at active
        exact active.2
    · exact .idle _
  | listTasks now reply =>
    show Effect world _ (world.listTasks now reply)
    unfold World.listTasks
    split
    · next read updated connection inFlight =>
      split
      · exact .dropJob _
      · next listed => exact .decide now read updated connection listed inFlight
    · exact .idle _
  | createTask reply => exact world.createTask_effect (answered reply rfl)
  | patchJob reply =>
    show Effect world _ (world.patchJob reply)
    unfold World.patchJob
    split
    · next read updated inFlight =>
      split
      · exact .patchJob reply read updated inFlight
      · exact .dropJob _
    · exact .idle _
  | beginTask name replies =>
    show Effect world _ (world.beginTask name replies)
    unfold World.beginTask
    split
    · next task free stored =>
      split
      · exact .idle _
      · next phase begins => exact .beginTask name replies task phase free stored begins
    · exact .idle _
  | callBmc name reply =>
    show Effect world _ (world.callBmc name reply)
    unfold World.callBmc
    split
    · next task status inFlight =>
      split
      · exact .dropTask _ name
      · next nothing => exact .noAction name reply task status inFlight nothing
      · next call isCall => exact .call name reply task status call inFlight isCall
    · exact .idle _
  | checkTask name now read =>
    show Effect world _ (world.checkTask name now read)
    unfold World.checkTask
    split
    · next task inFlight => exact .check name now read task inFlight
    · exact .idle _
  | patchTask name reply =>
    show Effect world _ (world.patchTask name reply)
    unfold World.patchTask
    split
    · next task status inFlight =>
      split
      · exact .patchTask name reply task status inFlight
      · exact .dropTask _ name
    · exact .idle _
  | addTask task => exact .addTask task
  | removeTask name => exact .removeTask name

end Tinkerbell.Rufio

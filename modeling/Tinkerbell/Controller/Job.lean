import Tinkerbell.Controller.Advance

/-!
Owns: the three phases a boot Job goes through: clean up an existing Job of the
name, create a new one, track it until it ends. The phase is inferred from the
entry of the Job in the workflow status.

`JobStep` is the protocol behind the phases, in terms of the entry, the Job
object and the log alone; `handles_handleJob` says that the code follows it and
touches nothing else.
-/

namespace Tinkerbell.Controller

open Api

def State.updateJobStatus (state : State) (name : String)
    (update : JobStatus → JobStatus) : State :=
  state.setJobStatus name (update (state.status.job name))

def deleteExisting (replies : Replies) (state : State) (name : String) : Outcome :=
  let state := if replies.deleteTasks.TookEffect then state.log (.tasksDeleted name)
    else state
  match replies.deleteTasks.error with
  | some err =>
    { state
      error := some ("error deleting tasks.bmc.tinkerbell.org objects: " ++ err) }
  | none =>
    let existing := (state.cluster.jobs name).map Bmc.Job.uid
    let state := if replies.deleteJob.TookEffect then
        (state.setCluster (state.cluster.deleteJob replies.now name)).log
          (.jobDeleted name existing)
      else state
    match replies.deleteJob.error with
    | some err =>
      { state
        error := some ("error deleting job.bmc.tinkerbell.org object: " ++ err) }
    | none =>
      { state := state.updateJobStatus name fun job =>
          { job with existingJobDeleted := true, uid := "", complete := false }
        result := { requeue := true } }

def newJob (wf : Workflow) (name machine uid : String)
    (actions : List Bmc.Action) : Bmc.Job where
  name
  «namespace» := wf.namespace
  uid
  annotations := [("tink-controller-auto-created", "true")]
  labels := [("tink-controller-auto-created", "true")]
  ownerReferences := [⟨wf.apiVersion, wf.kind, wf.name, wf.uid, true⟩]
  machineName := machine
  machineNamespace := wf.namespace
  tasks := actions

def create (replies : Replies) (state : State) (actions : List Bmc.Action)
    (name machine : String) : State × Option String :=
  match state.cluster.jobs name with
  | some _ => (state, some ("jobs.bmc.tinkerbell.org \"" ++ name ++ "\" already exists"))
  | none =>
    let job := newJob state.workflow name machine replies.newUID actions
    let state := if replies.createJob.TookEffect then
        (state.setCluster (state.cluster.setJob name (some job))).log
          (.jobCreated name replies.newUID)
      else state
    (state, replies.createJob.error)

def createJob (replies : Replies) (state : State) (actions : List Bmc.Action)
    (name : String) : Outcome :=
  match state.cluster.getJob replies name with
  | .ok job =>
    if job.deletionTimestamp ≠ none then
      { state, result := { requeue := true } }
    else
      { state := state.updateJobStatus name fun entry => { entry with uid := job.uid }
        result := { requeue := true } }
  | .error _ =>
    match replies.jobHardware with
    | .error err =>
      { state
        error := some ("error getting hardware: hardware not found: name=" ++
          state.workflow.spec.hardwareRef ++ "; namespace=" ++
          state.workflow.namespace ++ ", error: " ++ err) }
    | .ok hardware =>
      match hardware.spec.bmcRef with
      | none =>
        { state
          error := some ("hardware \"" ++ hardware.name ++
            "\" does not have a BMC") }
      | some machine =>
        match create replies state actions name machine with
        | (state, some err) =>
          { state
            error := some ("error creating job: error creating " ++
              "job.bmc.tinkerbell.org object for netbooting machine: " ++ err) }
        | (state, none) => { state, result := { requeue := true } }

inductive TrackedState where
  | complete
  | running
  | error
  | failed
deriving DecidableEq

def trackRunningJob (replies : Replies) (state : State) (name : String) :
    Outcome × TrackedState :=
  match state.cluster.getJob replies name with
  | .error err =>
    ({ state, error := some ("error getting job: " ++ err) }, .error)
  | .ok job =>
    if job.hasCondition .failed .true then
      ({ state, error := some "job failed" }, .failed)
    else if job.hasCondition .completed .true then
      ({ state := state.updateJobStatus name fun entry =>
          { entry with complete := true } }, .complete)
    else ({ state, result := { requeue := true } }, .running)

def Outcome.setCondition (outcome : Outcome) (condition : WorkflowCondition) :
    Outcome :=
  { outcome with state := outcome.state.setCondition condition }

def setUpJob (replies : Replies) (state : State) (actions : List Bmc.Action)
    (name : String) : Outcome :=
  let outcome := createJob replies state actions name
  match outcome.error with
  | some err =>
    outcome.setCondition (conditionAt replies.now .bootJobSetupFailed .true
      reasonError ("error creating job: " ++ err))
  | none =>
    outcome.setCondition (conditionAt replies.now .bootJobSetupComplete .true
      "Created" "job created")

def trackJob (replies : Replies) (state : State) (name : String) : Outcome :=
  match trackRunningJob replies state name with
  | (outcome, tracked) =>
    match outcome.error with
    | some err =>
      outcome.setCondition (conditionAt replies.now .bootJobFailed .true
        reasonError err)
    | none =>
      if tracked = .complete then
        outcome.setCondition (conditionAt replies.now .bootJobComplete .true
          "Complete" "job completed")
      else outcome

def cleanUpDue (status : WorkflowStatus) (name : String) : Bool :=
  match status.bootOptions.jobs.get name with
  | some job => !job.existingJobDeleted
  | none => false

def handleJob (replies : Replies) (state : State) (actions : List Bmc.Action)
    (name : String) : Outcome :=
  if cleanUpDue state.status name then deleteExisting replies state name
  else if (state.status.job name).uid = "" then
    if actions = [] then { state }
    else setUpJob replies state actions name
  else if (state.status.job name).complete = false then
    trackJob replies state name
  else { state, result := { requeue := true } }

inductive JobStep (name : String) (entry : Option JobStatus)
    (job : Option Bmc.Job) :
    Option JobStatus → Option Bmc.Job → List Event → Prop
  | idle {events : List Event}
      (quiet : ∀ event ∈ events, event = .tasksDeleted name) :
      JobStep name entry job entry job events
  | deleted {status : JobStatus} (now : Time) (found : entry = some status)
      (due : status.existingJobDeleted = false) {recorded : Option JobStatus}
      (isRecorded : recorded = entry ∨ recorded = some
        { existingJobDeleted := true, uid := "", complete := false }) :
      JobStep name entry job recorded (job.bind (deletedJob now))
        [.tasksDeleted name, .jobDeleted name (job.map Bmc.Job.uid)]
  | created {new : Bmc.Job} (cleaned : entry = none ∨
        ∃ status, entry = some status ∧ status.existingJobDeleted = true)
      (absent : job = none) (unmarked : new.deletionTimestamp = none) :
      JobStep name entry job entry (some new) [.jobCreated name new.uid]
  | adopted {existing : Bmc.Job} (cleaned : entry = none ∨
        ∃ status, entry = some status ∧ status.existingJobDeleted = true)
      (present : job = some existing)
      (unmarked : existing.deletionTimestamp = none)
      (unset : (entry.getD {}).uid = "") :
      JobStep name entry job
        (some { entry.getD {} with uid := existing.uid }) job []
  | completed {status : JobStatus} {existing : Bmc.Job}
      (found : entry = some status) (cleaned : status.existingJobDeleted = true)
      (known : status.uid ≠ "") (present : job = some existing)
      (done : existing.hasCondition .completed .true = true) :
      JobStep name entry job (some { status with complete := true }) job []

/-- A part that only works on the Job of one name. -/
structure State.Handles (name : String) (before after : State) : Prop where
  workflow : after.workflow = { before.workflow with
    status := { before.status with
      bootOptions := { before.status.bootOptions with
        jobs := after.status.bootOptions.jobs }
      conditions := after.status.conditions } }
  entries : ∀ other, other ≠ name →
    after.status.bootOptions.jobs.get other = before.status.bootOptions.jobs.get other
  jobs : ∀ other, other ≠ name → after.cluster.jobs other = before.cluster.jobs other
  steps : ∃ events, after.events = before.events ++ events ∧
    JobStep name (before.status.bootOptions.jobs.get name) (before.cluster.jobs name)
      (after.status.bootOptions.jobs.get name) (after.cluster.jobs name) events

namespace State.Handles

theorem idle (name : String) (state : State) : state.Handles name state where
  workflow := rfl
  entries := fun _ _ => rfl
  jobs := fun _ _ => rfl
  steps := ⟨[], by simp, .idle (by simp)⟩

variable {name : String} {before after : State}

section

variable (handles : before.Handles name after)
include handles

theorem setCondition (condition : WorkflowCondition) :
    before.Handles name (after.setCondition condition) where
  workflow := by
    unfold State.setCondition State.setStatus
    conv_lhs => rw [State.status, handles.workflow]
    rfl
  entries := handles.entries
  jobs := handles.jobs
  steps := handles.steps

theorem advances : before.Advances after := by
  have status : after.status = { before.status with
      bootOptions := { before.status.bootOptions with
        jobs := after.status.bootOptions.jobs }
      conditions := after.status.conditions } := by
    conv_lhs => rw [State.status, handles.workflow]
  obtain ⟨_, appended, _⟩ := handles.steps
  refine State.Advances.of_untoggled ?_ ?_ ?_
  · conv_lhs => rw [handles.workflow]
    rw [status]
  · rw [appended]
    exact List.prefix_append _ _
  · rw [status]

theorem state : after.status.state = before.status.state := by
  rw [State.status, handles.workflow]

end

end State.Handles

variable {name : String} {state before after : State}

variable {status : WorkflowStatus} {entry recorded : Option JobStatus} {job left : Option Bmc.Job}
  {events : List Event} {handled : Option String}

theorem cleaned_of_not_cleanUpDue (notDue : cleanUpDue status name = false) :
    status.bootOptions.jobs.get name = none ∨
      ∃ job, status.bootOptions.jobs.get name = some job ∧
        job.existingJobDeleted = true := by
  unfold cleanUpDue at notDue
  split at notDue
  · next job found => exact Or.inr ⟨job, found, by simpa using notDue⟩
  · next absent => exact Or.inl absent

private theorem found_of_cleanUpDue (due : cleanUpDue status name = true) :
    ∃ job, status.bootOptions.jobs.get name = some job ∧
      job.existingJobDeleted = false := by
  unfold cleanUpDue at due
  split at due
  · next job found => exact ⟨job, found, by simpa using due⟩
  · contradiction

theorem get_updateJobStatus (state : State) (name other : String)
    (update : JobStatus → JobStatus) :
    (state.updateJobStatus name update).status.bootOptions.jobs.get other =
      if name = other then some (update (state.status.job name))
      else state.status.bootOptions.jobs.get other :=
  KeyedMap.get_set state.status.bootOptions.jobs name other
    (update (state.status.job name))

theorem handles_updateJobStatus {update : JobStatus → JobStatus}
    (follows : JobStep name (state.status.bootOptions.jobs.get name)
      (state.cluster.jobs name) (some (update (state.status.job name)))
      (state.cluster.jobs name) []) :
    state.Handles name (state.updateJobStatus name update) where
  workflow := rfl
  entries := fun other different => by
    rw [get_updateJobStatus, if_neg different.symm]
  jobs := fun _ _ => rfl
  steps := ⟨[], (List.append_nil _).symm, by
    rw [get_updateJobStatus, if_pos rfl]
    exact follows⟩

variable (replies : Replies)

private theorem handles_deleteExisting (due : cleanUpDue state.status name = true) :
    state.Handles name (deleteExisting replies state name).state := by
  obtain ⟨_, found, notDeleted⟩ := found_of_cleanUpDue due
  have tasksOnly : state.Handles name (state.log (.tasksDeleted name)) :=
    { State.Handles.idle name state with
      steps := ⟨[.tasksDeleted name], rfl, .idle (by simp)⟩ }
  unfold deleteExisting
  cases tasksReply : replies.deleteTasks with
  | refused => exact State.Handles.idle name state
  | lost => exact tasksOnly
  | done =>
    cases jobReply : replies.deleteJob with
    | refused => exact tasksOnly
    | lost =>
      refine ⟨rfl, fun _ _ => rfl, fun other different => ?_, ?_⟩
      · exact Cluster.setJob_other state.cluster _ different
      · refine ⟨[.tasksDeleted name, _], List.append_assoc _ _ _, ?_⟩
        have removed := Cluster.setJob_same state.cluster name
          ((state.cluster.jobs name).bind (deletedJob replies.now))
        exact removed ▸ .deleted replies.now found notDeleted (Or.inl rfl)
    | done =>
      refine ⟨rfl, fun other different => ?_, fun other different => ?_, ?_⟩
      · exact (get_updateJobStatus _ name other _).trans (if_neg different.symm)
      · exact Cluster.setJob_other state.cluster _ different
      · refine ⟨[.tasksDeleted name, _], List.append_assoc _ _ _, ?_⟩
        have removed := Cluster.setJob_same state.cluster name
          ((state.cluster.jobs name).bind (deletedJob replies.now))
        have recorded := get_updateJobStatus
          ((state.log (.tasksDeleted name)).setCluster
            (state.cluster.deleteJob replies.now name) |>.log
              (.jobDeleted name ((state.cluster.jobs name).map Bmc.Job.uid)))
          name name fun job =>
            { job with existingJobDeleted := true, uid := "", complete := false }
        rw [if_pos rfl] at recorded
        exact recorded ▸ removed ▸
          .deleted replies.now found notDeleted (Or.inr rfl)

theorem getJob_eq_ok {cluster : Cluster} {replies : Replies} {job : Bmc.Job}
    (read : cluster.getJob replies name = .ok job) :
    cluster.jobs name = some job := by
  unfold Cluster.getJob at read
  split at read
  · cases read
  · split at read
    · next found =>
      cases read
      exact found
    · cases read

private theorem handles_create (actions : List Bmc.Action) (machine : String)
    (notDue : cleanUpDue state.status name = false) :
    state.Handles name (create replies state actions name machine).1 := by
  unfold create
  split
  · exact State.Handles.idle name state
  · next absent =>
    cases reply : replies.createJob with
    | refused => exact State.Handles.idle name state
    | done | lost =>
      refine ⟨rfl, fun _ _ => rfl, fun other different => ?_, ?_⟩
      · exact Cluster.setJob_other state.cluster _ different
      · have added := Cluster.setJob_same state.cluster name
          (some (newJob state.workflow name machine replies.newUID actions))
        exact ⟨[_], rfl, added ▸
          .created (cleaned_of_not_cleanUpDue notDue) absent rfl⟩

private theorem handles_createJob (actions : List Bmc.Action)
    (notDue : cleanUpDue state.status name = false) (unset : (state.status.job name).uid = "") :
    state.Handles name (createJob replies state actions name).state := by
  unfold createJob
  split
  · next job read =>
    split
    · exact State.Handles.idle name state
    · next unmarked =>
      show state.Handles name (state.updateJobStatus name fun entry =>
        { entry with uid := job.uid })
      apply handles_updateJobStatus
      exact .adopted (cleaned_of_not_cleanUpDue notDue) (getJob_eq_ok read)
        (not_not.mp unmarked) unset
  · split
    · exact State.Handles.idle name state
    · split
      · exact State.Handles.idle name state
      · next machine _ =>
        have handled := handles_create replies actions machine notDue
        split
        · next created => rw [created] at handled; exact handled
        · next created => rw [created] at handled; exact handled

private theorem handles_trackRunningJob (notDue : cleanUpDue state.status name = false)
    (known : (state.status.job name).uid ≠ "") :
    state.Handles name (trackRunningJob replies state name).1.state := by
  unfold trackRunningJob
  split
  · exact State.Handles.idle name state
  · next _ read =>
    split
    · exact State.Handles.idle name state
    · split
      · next done =>
        -- A known UID means that the entry is present, hence cleaned up.
        rcases cleaned_of_not_cleanUpDue notDue with absent | ⟨entry, found, cleaned⟩
        · simp [WorkflowStatus.job, absent] at known
        · have isEntry : state.status.job name = entry := by
            simp [WorkflowStatus.job, found]
          rw [isEntry] at known
          show state.Handles name (state.updateJobStatus name fun entry =>
            { entry with complete := true })
          apply handles_updateJobStatus
          rw [isEntry]
          exact .completed found cleaned known (getJob_eq_ok read) done
      · exact State.Handles.idle name state

theorem handles_handleJob (state : State) (actions : List Bmc.Action) (name : String) :
    state.Handles name (handleJob replies state actions name).state := by
  unfold handleJob
  split
  · next due => exact handles_deleteExisting replies due
  · next notDue =>
    rw [Bool.not_eq_true] at notDue
    split
    · next unset =>
      split
      · exact State.Handles.idle name state
      · have handled := handles_createJob replies actions notDue unset
        unfold setUpJob
        simp only
        split
        · exact handled.setCondition _
        · exact handled.setCondition _
    · next known =>
      split
      · have handled := handles_trackRunningJob replies notDue known
        unfold trackJob
        split
        next _ _ isTracked =>
          rw [isTracked] at handled
          split
          · exact handled.setCondition _
          · split
            · exact handled.setCondition _
            · exact handled
      · exact State.Handles.idle name state

def Event.isAboutJob (name : String) : Event → Bool
  | .hardwareUpdated _ => false
  | .tasksDeleted owner => owner = name
  | .jobDeleted other _ => other = name
  | .jobCreated other _ => other = name

def jobEvents (name : String) (events : List Event) : List Event :=
  events.filter (Event.isAboutJob name)

@[simp] theorem jobEvents_append (name : String) (first second : List Event) :
    jobEvents name (first ++ second) = jobEvents name first ++ jobEvents name second :=
  List.filter_append first second

theorem JobStep.jobEvents_eq (follows : JobStep name entry job recorded left events) :
    jobEvents name events = events := by
  apply List.filter_eq_self.mpr
  intro event member
  cases follows with
  | idle quiet =>
    rw [quiet event member]
    simp [Event.isAboutJob]
  | deleted =>
    simp only [List.mem_cons, List.not_mem_nil, or_false] at member
    rcases member with rfl | rfl <;> simp [Event.isAboutJob]
  | created =>
    rw [List.mem_singleton.mp member]
    simp [Event.isAboutJob]
  | adopted | completed => cases member

theorem JobStep.jobEvents_other {other : String}
    (follows : JobStep name entry job recorded left events) (different : other ≠ name) :
    jobEvents other events = [] := by
  apply List.filter_eq_nil_iff.mpr
  intro event member
  cases follows with
  | idle quiet =>
    rw [quiet event member]
    simp [Event.isAboutJob, different.symm]
  | deleted =>
    simp only [List.mem_cons, List.not_mem_nil, or_false] at member
    rcases member with rfl | rfl <;> simp [Event.isAboutJob, different.symm]
  | created =>
    rw [List.mem_singleton.mp member]
    simp [Event.isAboutJob, different.symm]
  | adopted | completed => cases member

def State.StepsJobs (handled : Option String) (before after : State) : Prop :=
  ∃ events, after.events = before.events ++ events ∧
    ∀ name, JobStep name (before.status.bootOptions.jobs.get name)
        (before.cluster.jobs name) (after.status.bootOptions.jobs.get name)
        (after.cluster.jobs name) (jobEvents name events) ∧
      (jobEvents name events ≠ [] → handled = some name)

/-- No Job is touched. -/
structure State.SparesJobs (before after : State) : Prop where
  jobs : after.status.bootOptions.jobs = before.status.bootOptions.jobs
  cluster : after.cluster = before.cluster
  events : ∃ events, after.events = before.events ++ events ∧
    ∀ name, jobEvents name events = []

theorem State.SparesJobs.refl (state : State) : state.SparesJobs state :=
  ⟨rfl, rfl, [], (List.append_nil _).symm, fun _ => rfl⟩

theorem State.SparesJobs.stepsJobs (spares : before.SparesJobs after) (handled : Option String) :
    State.StepsJobs handled before after := by
  obtain ⟨events, appended, unrelated⟩ := spares.events
  refine ⟨events, appended, fun name => ?_⟩
  rw [spares.jobs, spares.cluster, unrelated name]
  exact ⟨.idle (by simp), fun traced => absurd rfl traced⟩

theorem State.Handles.stepsJobs (handles : before.Handles name after) :
    State.StepsJobs (some name) before after := by
  obtain ⟨events, appended, follows⟩ := handles.steps
  refine ⟨events, appended, fun other => ?_⟩
  by_cases same : other = name
  · subst same
    rw [follows.jobEvents_eq]
    exact ⟨follows, fun _ => rfl⟩
  · rw [follows.jobEvents_other same, handles.entries other same,
      handles.jobs other same]
    exact ⟨.idle (by simp), fun traced => absurd rfl traced⟩

theorem State.SparesJobs.trans_stepsJobs {first second third : State}
    (spares : first.SparesJobs second) (steps : State.StepsJobs handled second third) :
    State.StepsJobs handled first third := by
  obtain ⟨early, appendedEarly, unrelated⟩ := spares.events
  obtain ⟨late, appendedLate, follows⟩ := steps
  refine ⟨early ++ late, by rw [appendedLate, appendedEarly, List.append_assoc],
    fun name => ?_⟩
  rw [jobEvents_append, unrelated name, List.nil_append, ← spares.jobs, ← spares.cluster]
  exact follows name

theorem State.StepsJobs.setWorkflowState (steps : State.StepsJobs handled before after)
    (workflowState : WorkflowState) :
    State.StepsJobs handled before (after.setWorkflowState workflowState) := steps

theorem State.SparesJobs.setWorkflowState (spares : before.SparesJobs after)
    (workflowState : WorkflowState) :
    before.SparesJobs (after.setWorkflowState workflowState) :=
  ⟨spares.jobs, spares.cluster, spares.events⟩

theorem State.SparesJobs.setConditionIfDifferent (state : State)
    (condition : WorkflowCondition) :
    state.SparesJobs (state.setConditionIfDifferent condition) := by
  refine ⟨?_, rfl, [], (List.append_nil _).symm, fun _ => rfl⟩
  unfold State.setConditionIfDifferent WorkflowStatus.setConditionIfDifferent
  split
  · split <;> rfl
  · rfl

end Tinkerbell.Controller

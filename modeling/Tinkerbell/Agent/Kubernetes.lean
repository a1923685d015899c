import Tinkerbell.Agent.Spec
import Tinkerbell.Library.ByteText
import Tinkerbell.Library.KeyedMap
import Tinkerbell.Library.ObjectStore

/-!
Owns: the runtime that runs an action as a Kubernetes Job: the Job of an action, adopting
a leftover of it, the wait for its Pod over any number of lists and watches, and the
outcome that is read off the Pod.

What the API server answers is a `Script`. It keeps the Jobs by name, and how it matches a
label selector is a parameter.

Does not own: the logs of the Pod, and Jobs that others create or delete meanwhile.
-/

namespace Tinkerbell.Agent.Kubernetes

open ByteText

/-! ### Objects -/

structure Terminated where
  exitCode : Int
  reason : String := ""

structure ContainerState where
  terminated : Option Terminated := none

structure ContainerStatus where
  name : String
  state : ContainerState := {}

inductive PodPhase where
  | pending
  | running
  | succeeded
  | failed
  | unknown
  | other (name : String)
deriving DecidableEq

def PodPhase.text : PodPhase → String
  | .pending => "Pending"
  | .running => "Running"
  | .succeeded => "Succeeded"
  | .failed => "Failed"
  | .unknown => "Unknown"
  | .other name => name

structure Pod where
  name : String
  labels : KeyedMap String String := KeyedMap.empty
  phase : PodPhase := .other ""
  containerStatuses : List ContainerStatus := []

structure Container where
  (name image : String)
  (command args : List String := [])
  env : List Env := []

/-- A Job, with what its Pods are made from. -/
structure Job where
  name : String
  «namespace» : String := ""
  labels : KeyedMap String String := KeyedMap.empty
  backoffLimit : Int := 0
  activeDeadlineSeconds : Option Int := none
  podLabels : KeyedMap String String := KeyedMap.empty
  restartPolicy : String := ""
  containers : List Container := []
  serviceAccountName : String := ""
  automountServiceAccountToken : Bool := true

structure Config where
  («namespace» serviceAccountName : String := "")

def actionIDLabel : String := "tinkerbell.org/action-id"

def actionContainerName : String := "action"

/-! ### The Job of an action -/

/-- `unicode.ToLower` for what it takes to ASCII; any other character ends up outside of
the letters that a name keeps. -/
def lowerRune (c : Char) : Char :=
  if c = Char.ofNat 0x130 then 'i' else if c = Char.ofNat 0x212a then 'k' else c.toLower

def isJobNameChar (c : Char) : Bool :=
  ('a' ≤ c && c ≤ 'z') || ('0' ≤ c && c ≤ '9') || c = '-'

def jobName (actionID name : String) : String :=
  let base := ("tinkerbell-" ++ name ++ "-" ++ actionID).toList.map lowerRune
  let base := trim (· = '-') (base.map fun c => if isJobNameChar c then c else '-')
  let base := if 63 < base.length then trim (· = '-') (base.take 63) else base
  if base = [] then "tinkerbell-action" else String.ofList base

def activeDeadlineSeconds (a : Action) : Option Int :=
  if a.timeoutSeconds ≤ 0 then none else some a.timeoutSeconds

def jobFor (config : Config) (a : Action) : Except String Job :=
  if a.namespaces.pid ≠ "" ∨ a.namespaces.network ≠ "" then
    .error "kubernetes runtime: host PID/network namespaces are not supported"
  else if a.volumes ≠ [] then
    .error "kubernetes runtime: volumes are not supported"
  else
    .ok
      { name := jobName a.id a.name
        «namespace» := config.namespace
        labels := KeyedMap.empty.set actionIDLabel a.id
        backoffLimit := 0
        activeDeadlineSeconds := activeDeadlineSeconds a
        podLabels := KeyedMap.empty.set actionIDLabel a.id
        restartPolicy := "Never"
        containers :=
          [{ name := actionContainerName
             image := a.image
             command := if a.cmd = "" then [] else [a.cmd]
             args := a.args
             env := a.env }]
        serviceAccountName := config.serviceAccountName
        automountServiceAccountToken := false }

/-! ### The name of a Job -/

def isLetterOrDigit (c : Char) : Bool := ('a' ≤ c && c ≤ 'z') || ('0' ≤ c && c ≤ '9')

structure ValidJobName (name : List Char) : Prop where
  notEmpty : 1 ≤ name.length
  fits : name.length ≤ 63
  characters : ∀ c ∈ name, isLetterOrDigit c = true ∨ c = '-'
  starts : ∃ c, name.head? = some c ∧ isLetterOrDigit c = true
  ends : ∃ c, name.getLast? = some c ∧ isLetterOrDigit c = true

theorem isJobNameChar_iff {c : Char} :
    isJobNameChar c = true ↔ isLetterOrDigit c = true ∨ c = '-' := by
  simp [isJobNameChar, isLetterOrDigit]

/-- Trimming leaves a valid name, if it leaves anything and that fits: the hyphens that stand at
the ends are gone, wherever the text was cut before. -/
theorem validJobName_trim {text : List Char}
    (characters : ∀ c ∈ text, isJobNameChar c = true) (notEmpty : trim (· = '-') text ≠ [])
    (fits : (trim (· = '-') text).length ≤ 63) : ValidJobName (trim (· = '-') text) := by
  have kept : ∀ c ∈ trim (· = '-') text, isLetterOrDigit c = true ∨ c = '-' := fun c member =>
    isJobNameChar_iff.mp (characters c ((trim_isInfix _ text).subset member))
  refine ⟨List.length_pos_iff.mpr notEmpty, fits, kept, ?_, ?_⟩
  · have isFirst := List.head?_eq_some_head notEmpty
    refine ⟨_, isFirst, (kept _ (List.head_mem notEmpty)).resolve_right fun isDash => ?_⟩
    simpa [isDash] using head?_trim _ text _ isFirst
  · have isLast := List.getLast?_eq_some_getLast notEmpty
    refine ⟨_, isLast, (kept _ (List.getLast_mem notEmpty)).resolve_right fun isDash => ?_⟩
    simpa [isDash] using getLast?_trim _ text _ isLast

/-- Whatever the action is called, the name of its Job is a valid label. -/
theorem job_names_are_valid (actionID name : String) :
    ValidJobName (jobName actionID name).toList := by
  unfold jobName
  extract_lets lowered trimmed base
  have characters : ∀ c ∈ lowered.map fun c => if isJobNameChar c then c else '-',
      isJobNameChar c = true := by
    intro c member
    obtain ⟨_, _, rfl⟩ := List.mem_map.mp member
    split
    · assumption
    · rfl
  split
  · have named : "tinkerbell-action".toList.all isJobNameChar = true := by decide
    refine ⟨by decide, by decide, ?_, ⟨'t', by decide⟩, ⟨'n', by decide⟩⟩
    intro c member
    exact isJobNameChar_iff.mp (List.all_eq_true.mp named c member)
  · next notEmpty =>
    rw [String.toList_ofList]
    by_cases long : 63 < trimmed.length
    · have isCut : base = trim (· = '-') (trimmed.take 63) := if_pos long
      rw [isCut] at notEmpty ⊢
      refine validJobName_trim ?_ notEmpty ?_
      · intro c member
        exact characters c ((trim_isInfix _ _).subset (List.mem_of_mem_take member))
      · exact (trim_isInfix _ _).length_le.trans (List.length_take_le _ _)
    · have isWhole : base = trimmed := if_neg long
      rw [isWhole] at notEmpty ⊢
      exact validJobName_trim characters notEmpty (Nat.le_of_not_lt long)

/-! ### The API server -/

/-- The Jobs of the namespace. -/
abbrev JobStore := ObjectStore Job.name

/-- One event of a watch; `closed` and `cancelled` end it. -/
inductive WatchEvent where
  | pod (pod : Pod)
  | error (err : String)
  | other
  | closed
  | cancelled (err : String)

def WatchEvent.pods : WatchEvent → List Pod
  | .pod shown => [shown]
  | _ => []

/-- One turn of the wait: the list, the watch that follows it, and whether the wait is
cancelled before the next turn. -/
structure Round where
  list : Except String (List Pod)
  watch : Except String (List WatchEvent) := .ok []
  cancelled : Option String := none

def Round.pods (round : Round) : List Pod :=
  (match round.list with
    | .ok pods => pods
    | .error _ => []) ++
  match round.watch with
  | .ok events => events.flatMap WatchEvent.pods
  | .error _ => []

/-- What the server answers during a call. -/
structure Script where
  (createRefusal getRefusal deleteRefusal : Option String := none)
  rounds : List Round := []

def createJob (jobs : JobStore) (refusal : Option String) (job : Job) :
    Except (Bool × String) JobStore :=
  match refusal with
  | some err => .error (false, err)
  | none =>
    if (jobs.find job.name).isSome then
      .error (true, "jobs.batch \"" ++ job.name ++ "\" already exists")
    else .ok (jobs.insert job)

def adoptExistingJob (jobs : JobStore) (getRefusal : Option String)
    (name actionID createErr : String) : Except String Job :=
  match getRefusal, jobs.find name with
  | none, some existing =>
    if (existing.labels.get actionIDLabel).getD "" ≠ actionID then .error createErr
    else .ok existing
  | _, _ => .error createErr

/-! ### Waiting for the Pod -/

def actionContainerStatus (pod : Pod) : ContainerState :=
  match pod.containerStatuses.find? fun status => status.name = actionContainerName with
  | some status => status.state
  | none => {}

def podTerminated (pod : Pod) : Bool :=
  pod.phase = .failed || pod.phase = .succeeded ||
    (actionContainerStatus pod).terminated.isSome

def exitError (pod : Pod) : Option String :=
  match (actionContainerStatus pod).terminated with
  | some t =>
    if t.exitCode = 0 then none
    else some ("kubernetes: container exited " ++ toString t.exitCode ++ ": " ++ t.reason)
  | none => some ("kubernetes: pod " ++ pod.name ++ " ended in phase " ++ pod.phase.text ++
      " with no terminated container status")

inductive Wait where
  | pod (pod : Pod)
  | closed
  | failed (err : String)
  | waiting

def watchForTerminatedPod : List WatchEvent → Wait
  | [] => .waiting
  | .cancelled err :: _ => .failed err
  | .closed :: _ | .error _ :: _ => .closed
  | .other :: rest => watchForTerminatedPod rest
  | .pod pod :: rest => if podTerminated pod then .pod pod else watchForTerminatedPod rest

def waitTurn (round : Round) : Wait :=
  match round.list with
  | .error err => .failed ("kubernetes: listing pods: " ++ err)
  | .ok pods =>
    match pods.find? podTerminated with
    | some pod => .pod pod
    | none =>
      match round.watch with
      | .error err => .failed ("kubernetes: watching pods: " ++ err)
      | .ok events =>
        match watchForTerminatedPod events, round.cancelled with
        | .closed, some err => .failed err
        | ended, _ => ended

def waitForPod : List Round → Wait
  | [] => .waiting
  | round :: rest =>
    match waitTurn round with
    | .closed => waitForPod rest
    | ended => ended

/-! ### Execute -/

/-- How a call ends: what it returns, `none` while it waits, the Job it adopted, the names
it deletes, and the Jobs that are stored then. -/
structure Executed where
  result : Option (Option String)
  jobs : JobStore
  adopted : Option String := none
  deletes : List String := []

def Wait.result : Wait → Option (Option String)
  | .pod observed => some (exitError observed)
  | .failed err => some (some err)
  | .closed | .waiting => none

def awaitAndDelete (jobs : JobStore) (adopted : Option String) (created : Job)
    (script : Script) : Executed :=
  match (waitForPod script.rounds).result with
  | none => { result := none, jobs, adopted }
  | some result =>
    { result := some result
      jobs := if script.deleteRefusal.isSome then jobs else jobs.remove created.name
      adopted
      deletes := [created.name] }

def execute (config : Config) (a : Action) (jobs : JobStore) (script : Script) : Executed :=
  match jobFor config a with
  | .error err => { result := some (some err), jobs }
  | .ok job =>
    match createJob jobs script.createRefusal job with
    | .ok next => awaitAndDelete next none job script
    | .error (false, err) =>
      { result := some (some ("kubernetes: creating job: " ++ err)), jobs }
    | .error (true, createErr) =>
      match adoptExistingJob jobs script.getRefusal job.name a.id createErr with
      | .error err =>
        { result := some (some ("kubernetes: creating job: " ++ err)), jobs }
      | .ok existing => awaitAndDelete jobs (some existing.name) existing script

/-! ### The server's side -/

def validLabelValue (value : String) : Bool :=
  let isAlphanumeric := fun c : Char =>
    ('a' ≤ c && c ≤ 'z') || ('A' ≤ c && c ≤ 'Z') || ('0' ≤ c && c ≤ '9')
  value.toList.length ≤ 63 &&
    value.toList.all (fun c => isAlphanumeric c || c = '-' || c = '_' || c = '.') &&
    value.toList.head?.all isAlphanumeric && value.toList.getLast?.all isAlphanumeric

def selectorFor (actionID : String) : String := actionIDLabel ++ "=" ++ actionID

def EqualitySelector (select : String → Pod → Bool) : Prop :=
  ∀ value pod, validLabelValue value = true → select (selectorFor value) pod = true →
    pod.labels.get actionIDLabel = some value

/-- The server refuses a Job whose label has no valid value, and lists and watches the
Pods that the selector selects. -/
structure Serves (select : String → Pod → Bool) (actionID : String) (script : Script) : Prop where
  validates : validLabelValue actionID = false → script.createRefusal ≠ none
  selects : ∀ round ∈ script.rounds, ∀ pod ∈ round.pods, select (selectorFor actionID) pod = true

/-! ### Success -/

variable {observed pod other : Pod}

variable {events : List WatchEvent} {round : Round} {rounds : List Round}

private theorem watchForTerminatedPod_pod (isPod : watchForTerminatedPod events = .pod observed) :
    observed ∈ events.flatMap WatchEvent.pods := by
  induction events with
  | nil => cases isPod
  | cons event _ ih =>
    rw [List.flatMap_cons, List.mem_append]
    cases event with
    | pod =>
      rw [watchForTerminatedPod] at isPod
      split at isPod
      · cases isPod
        exact .inl List.mem_cons_self
      · exact .inr (ih isPod)
    | other => exact .inr (ih isPod)
    | error err | closed | cancelled err => cases isPod

private theorem waitTurn_pod (isPod : waitTurn round = .pod observed) : observed ∈ round.pods := by
  unfold waitTurn at isPod
  unfold Round.pods
  split at isPod
  · cases isPod
  · next _ isList =>
    rw [isList]
    split at isPod
    · next _ isFound =>
      cases isPod
      exact List.mem_append_left _ (List.mem_of_find?_eq_some isFound)
    · split at isPod
      · cases isPod
      · next _ isWatch =>
        rw [isWatch]
        split at isPod
        · cases isPod
        · exact List.mem_append_right _ (watchForTerminatedPod_pod isPod)

private theorem waitForPod_pod (isPod : waitForPod rounds = .pod observed) :
    ∃ round ∈ rounds, observed ∈ round.pods := by
  induction rounds with
  | nil => cases isPod
  | cons round _ ih =>
    rw [waitForPod] at isPod
    split at isPod
    · obtain ⟨turn, member, shown⟩ := ih isPod
      exact ⟨turn, List.mem_cons_of_mem _ member, shown⟩
    · exact ⟨round, List.mem_cons_self, waitTurn_pod isPod⟩

private theorem exitError_eq_none (success : exitError pod = none) :
    ∃ status ∈ pod.containerStatuses, status.name = actionContainerName ∧
      ∃ reason, status.state.terminated = some ⟨0, reason⟩ := by
  unfold exitError actionContainerStatus at success
  cases isFound : pod.containerStatuses.find? fun status => status.name = actionContainerName with
  | none => simp [isFound] at success
  | some status =>
    refine ⟨status, List.mem_of_find?_eq_some isFound, by simpa using List.find?_some isFound, ?_⟩
    simp only [isFound] at success
    cases isEnd : status.state.terminated with
    | none => simp [isEnd] at success
    | some t =>
      obtain ⟨_, reason⟩ := t
      simp only [isEnd] at success
      split at success
      · next isZero => exact ⟨reason, by rw [isZero]⟩
      · cases success

/-! ### Other containers -/

structure SamePod (pod other : Pod) : Prop where
  name : other.name = pod.name
  labels : other.labels = pod.labels
  phase : other.phase = pod.phase
  action : other.containerStatuses.filter (fun status => status.name = actionContainerName) =
    pod.containerStatuses.filter fun status => status.name = actionContainerName

inductive SameEvent : WatchEvent → WatchEvent → Prop where
  | pod {pod other : Pod} (same : SamePod pod other) : SameEvent (.pod pod) (.pod other)
  | same (event : WatchEvent) : SameEvent event event

/-- Both are the same error, or lists of related elements. -/
inductive SameAnswer {α : Type} (Same : α → α → Prop) :
    Except String (List α) → Except String (List α) → Prop where
  | error (err : String) : SameAnswer Same (.error err) (.error err)
  | ok {elements others : List α} (same : List.Forall₂ Same elements others) :
      SameAnswer Same (.ok elements) (.ok others)

structure SameRound (round other : Round) : Prop where
  list : SameAnswer SamePod round.list other.list
  watch : SameAnswer SameEvent round.watch other.watch
  cancelled : other.cancelled = round.cancelled

structure SameScript (script other : Script) : Prop where
  createRefusal : other.createRefusal = script.createRefusal
  getRefusal : other.getRefusal = script.getRefusal
  deleteRefusal : other.deleteRefusal = script.deleteRefusal
  rounds : List.Forall₂ SameRound script.rounds other.rounds

/-- The waits end alike. -/
inductive SameWait : Wait → Wait → Prop where
  | pod {pod other : Pod} (same : SamePod pod other) : SameWait (.pod pod) (.pod other)
  | same (wait : Wait) : SameWait wait wait

theorem actionContainerStatus_congr (same : SamePod pod other) :
    actionContainerStatus other = actionContainerStatus pod := by
  unfold actionContainerStatus
  rw [← List.head?_filter, ← List.head?_filter, same.action]

theorem podTerminated_congr (same : SamePod pod other) :
    podTerminated other = podTerminated pod := by
  unfold podTerminated
  rw [same.phase, actionContainerStatus_congr same]

private theorem exitError_congr (same : SamePod pod other) : exitError other = exitError pod := by
  unfold exitError
  rw [same.name, same.phase, actionContainerStatus_congr same]

private theorem find_podTerminated_congr {pods others : List Pod}
    (same : List.Forall₂ SamePod pods others) :
    Option.Rel SamePod (pods.find? podTerminated) (others.find? podTerminated) := by
  induction same with
  | nil => exact .none
  | @cons pod _ _ _ head _ ih =>
    rw [List.find?_cons, List.find?_cons, podTerminated_congr head]
    cases podTerminated pod with
    | true => exact .some head
    | false => exact ih

private theorem watchForTerminatedPod_congr {others : List WatchEvent}
    (same : List.Forall₂ SameEvent events others) :
    SameWait (watchForTerminatedPod events) (watchForTerminatedPod others) := by
  induction same with
  | nil => exact .same _
  | @cons event _ _ _ head _ ih =>
    cases head with
    | @pod pod _ samePod =>
      rw [watchForTerminatedPod, watchForTerminatedPod, podTerminated_congr samePod]
      cases podTerminated pod with
      | true => exact .pod samePod
      | false => exact ih
    | same =>
      cases event with
      | pod pod =>
        rw [watchForTerminatedPod, watchForTerminatedPod]
        cases podTerminated pod with
        | true => exact .same _
        | false => exact ih
      | other => exact ih
      | error err | closed | cancelled err => exact .same _

private theorem waitTurn_congr {other : Round} (same : SameRound round other) :
    SameWait (waitTurn round) (waitTurn other) := by
  obtain ⟨_, _, _⟩ := round
  obtain ⟨_, _, _⟩ := other
  obtain ⟨sameList, sameWatch, rfl⟩ := same
  unfold waitTurn
  cases sameList with
  | error => exact .same _
  | ok samePods =>
    have found := find_podTerminated_congr samePods
    dsimp only
    generalize List.find? podTerminated _ = first at found
    generalize List.find? podTerminated _ = second at found
    cases found with
    | some samePod => exact .pod samePod
    | none =>
      cases sameWatch with
      | error => exact .same _
      | ok sameEvents =>
        have ended := watchForTerminatedPod_congr sameEvents
        dsimp only
        generalize watchForTerminatedPod _ = first at ended
        generalize watchForTerminatedPod _ = second at ended
        cases ended with
        | pod samePod => exact .pod samePod
        | same => exact .same _

theorem waitForPod_congr {others : List Round} (same : List.Forall₂ SameRound rounds others) :
    SameWait (waitForPod rounds) (waitForPod others) := by
  induction same with
  | nil => exact .same _
  | cons head _ ih =>
    have turn := waitTurn_congr head
    rw [waitForPod, waitForPod]
    generalize waitTurn _ = first at turn
    generalize waitTurn _ = second at turn
    cases turn with
    | pod samePod => exact .pod samePod
    | same =>
      cases first with
      | closed => exact ih
      | pod pod | failed err | waiting => exact .same _

private theorem result_congr {wait other : Wait} (same : SameWait wait other) :
    other.result = wait.result := by
  cases same with
  | pod samePod => exact congrArg some (exitError_congr samePod)
  | same => rfl

/-! ### Jobs of other actions -/

section Execute

variable (config : Config) (a : Action) (jobs : JobStore) (script : Script)

/-- What a call does: it stops with an error and touches nothing, it creates the Job of
the action, or it adopts a stored one that carries the ID of the action. -/
theorem execute_cases :
    (∃ err, execute config a jobs script = { result := some (some err), jobs }) ∨
      script.createRefusal = none ∧
        ((∃ job, jobs.find job.name = none ∧
            execute config a jobs script = awaitAndDelete (jobs.insert job) none job script) ∨
          ∃ existing, jobs.find existing.name = some existing ∧
            (existing.labels.get actionIDLabel).getD "" = a.id ∧
            execute config a jobs script =
              awaitAndDelete jobs (some existing.name) existing script) := by
  unfold execute
  cases jobFor config a with
  | error err => exact .inl ⟨err, rfl⟩
  | ok job =>
    unfold createJob
    cases isRefused : script.createRefusal with
    | some => exact .inl ⟨_, rfl⟩
    | none =>
      cases isStored : jobs.find job.name with
      | none =>
        refine .inr ⟨rfl, .inl ⟨job, isStored, ?_⟩⟩
        simp only [isStored, Option.isSome_none, Bool.false_eq_true, if_false]
      | some existing =>
        have isName := (ObjectStore.find_eq_some.mp isStored).2
        simp only [Option.isSome_some, if_true, adoptExistingJob, isStored]
        cases script.getRefusal with
        | some => exact .inl ⟨_, rfl⟩
        | none =>
          by_cases own : (existing.labels.get actionIDLabel).getD "" = a.id
          · refine .inr ⟨trivial, .inr ⟨existing, isName ▸ isStored, own, ?_⟩⟩
            simp only [own, ne_eq, not_true_eq_false, if_false]
          · left
            simp only [own, ne_eq, not_false_eq_true, if_true]
            exact ⟨_, rfl⟩

variable {jobs script}

theorem awaitAndDelete_result (adopted : Option String) (created : Job) :
    (awaitAndDelete jobs adopted created script).result = (waitForPod script.rounds).result := by
  unfold awaitAndDelete
  split
  · next isNone => exact isNone.symm
  · next isSome => exact isSome.symm

theorem awaitAndDelete_other {adopted : Option String} {created : Job} {name : String}
    (different : created.name ≠ name) :
    name ∉ (awaitAndDelete jobs adopted created script).deletes ∧
      (awaitAndDelete jobs adopted created script).jobs.find name = jobs.find name := by
  unfold awaitAndDelete
  split
  · exact ⟨List.not_mem_nil, rfl⟩
  · refine ⟨by simpa using Ne.symm different, ?_⟩
    split
    · rfl
    · rw [ObjectStore.find_remove, if_neg different]

theorem awaitAndDelete_adopted (adopted : Option String) (created : Job) :
    (awaitAndDelete jobs adopted created script).adopted = adopted := by
  unfold awaitAndDelete
  split <;> rfl

private theorem execute_leaves_others {name : String} {job : Job} {id : String}
    (isStored : jobs.find name = some job)
    (carries : job.labels.get actionIDLabel = some id) (other : id ≠ a.id) :
    (execute config a jobs script).adopted ≠ some name ∧
      name ∉ (execute config a jobs script).deletes ∧
      (execute config a jobs script).jobs.find name = some job := by
  rcases execute_cases config a jobs script with
    ⟨err, isError⟩ | ⟨_, ⟨own, free, isCreated⟩ | ⟨existing, isExisting, isOwn, isAdopted⟩⟩
  · rw [isError]
    exact ⟨nofun, List.not_mem_nil, isStored⟩
  · have different : own.name ≠ name := by
      rintro rfl
      rw [free] at isStored
      cases isStored
    have left := @awaitAndDelete_other (jobs.insert own) script none own name different
    rw [isCreated, awaitAndDelete_adopted]
    exact ⟨nofun, left.1, left.2.trans (ObjectStore.find_insert_of_found isStored)⟩
  · have different : existing.name ≠ name := by
      rintro rfl
      rw [isExisting] at isStored
      cases isStored
      rw [carries] at isOwn
      exact other isOwn
    have left := @awaitAndDelete_other jobs script (some existing.name) existing name different
    rw [isAdopted, awaitAndDelete_adopted]
    exact ⟨fun same => different (Option.some.inj same), left.1, left.2.trans isStored⟩

private theorem execute_success (success : (execute config a jobs script).result = some none) :
    script.createRefusal = none ∧
      ∃ pod, waitForPod script.rounds = .pod pod ∧ exitError pod = none := by
  have waited : (waitForPod script.rounds).result = some none →
      ∃ pod, waitForPod script.rounds = .pod pod ∧ exitError pod = none := by
    intro isNone
    cases isWait : waitForPod script.rounds with
    | pod pod =>
      rw [isWait] at isNone
      exact ⟨pod, rfl, Option.some.inj isNone⟩
    | closed | failed err | waiting =>
      rw [isWait] at isNone
      cases isNone
  rcases execute_cases config a jobs script with
    ⟨err, isError⟩ | ⟨accepted, ⟨own, _, isCreated⟩ | ⟨existing, _, _, isAdopted⟩⟩
  · rw [isError] at success
    cases success
  · rw [isCreated, awaitAndDelete_result] at success
    exact ⟨accepted, waited success⟩
  · rw [isAdopted, awaitAndDelete_result] at success
    exact ⟨accepted, waited success⟩

private theorem execute_congr {other : Script} (same : SameScript script other) :
    (execute config a jobs other).result = (execute config a jobs script).result := by
  have waited := result_congr (waitForPod_congr same.rounds)
  unfold execute
  rw [same.createRefusal, same.getRefusal]
  cases jobFor config a with
  | error => rfl
  | ok =>
    dsimp only
    split
    · rw [awaitAndDelete_result, awaitAndDelete_result, waited]
    · rfl
    · split
      · rfl
      · rw [awaitAndDelete_result, awaitAndDelete_result, waited]

end Execute

/-- The runtime reports success only for the action's own container, is not moved by the
statuses of other containers, and leaves the Jobs of other actions alone. -/
theorem kubernetes_runtime_own_container {select : String → Pod → Bool}
    (equality : EqualitySelector select) (config : Config) (a : Action) (jobs : JobStore)
    (script : Script) (serves : Serves select a.id script) :
    ((execute config a jobs script).result = some none →
        ∃ pod, waitForPod script.rounds = .pod pod ∧ (∃ round ∈ script.rounds, pod ∈ round.pods) ∧
          pod.labels.get actionIDLabel = some a.id ∧
          ∃ status ∈ pod.containerStatuses, status.name = actionContainerName ∧
            ∃ reason, status.state.terminated = some ⟨0, reason⟩) ∧
      (∀ other, SameScript script other →
        (execute config a jobs other).result = (execute config a jobs script).result) ∧
      ∀ name job id, jobs.find name = some job → job.labels.get actionIDLabel = some id →
        id ≠ a.id → (execute config a jobs script).adopted ≠ some name ∧
          name ∉ (execute config a jobs script).deletes ∧
          (execute config a jobs script).jobs.find name = some job := by
  refine ⟨?_, fun other same => execute_congr config a same, ?_⟩
  · intro success
    obtain ⟨accepted, pod, isPod, exited⟩ := execute_success config a success
    obtain ⟨round, member, shown⟩ := waitForPod_pod isPod
    have isValid : validLabelValue a.id = true := by
      by_contra notValid
      exact serves.validates (Bool.eq_false_iff.mpr notValid) accepted
    have labelled := equality a.id pod isValid (serves.selects round member pod shown)
    exact ⟨pod, isPod, ⟨round, member, shown⟩, labelled, exitError_eq_none exited⟩
  · intro name job id isStored carries other
    exact execute_leaves_others config a isStored carries other

def selectByID (selector : String) (pod : Pod) : Bool :=
  match pod.labels.get actionIDLabel with
  | some value => selector = selectorFor value
  | none => false

private theorem equalitySelector_selectByID : EqualitySelector selectByID := by
  intro value pod _ selected
  unfold selectByID at selected
  split at selected
  · next found isFound =>
    have same : selectorFor value = selectorFor found := by simpa using selected
    have sameValue : value = found := (String.append_right_inj _).mp same
    rw [isFound, sameValue]
  · cases selected

def finishedPod : Pod where
  name := "tinkerbell-install-a1-x"
  labels := KeyedMap.empty.set actionIDLabel "a1"
  phase := .running
  containerStatuses :=
    [{ name := "proxy", state := { terminated := some ⟨1, "Error"⟩ } },
     { name := "action", state := { terminated := some ⟨0, "Completed"⟩ } }]

theorem kubernetes_runtime_own_container_sidecar :
    (execute {} { id := "a1", name := "install" } ⟨[], List.nodup_nil⟩
        { rounds := [{ list := .ok [], watch := .ok [.closed] },
            { list := .ok [], watch := .ok [.pod finishedPod] }] }).result = some none ∧
      ∃ pod, waitForPod [{ list := .ok [], watch := .ok [.closed] },
            { list := .ok [], watch := .ok [.pod finishedPod] }] = .pod pod ∧
        (∃ round ∈ [{ list := .ok [], watch := .ok [.closed] },
            { list := .ok [], watch := .ok [.pod finishedPod] }], pod ∈ Round.pods round) ∧
        pod.labels.get actionIDLabel = some "a1" ∧
        ∃ status ∈ pod.containerStatuses, status.name = actionContainerName ∧
          ∃ reason, status.state.terminated = some ⟨0, reason⟩ := by
  have success : (execute {} { id := "a1", name := "install" } ⟨[], List.nodup_nil⟩
      { rounds := [{ list := .ok [], watch := .ok [.closed] },
          { list := .ok [], watch := .ok [.pod finishedPod] }] }).result = some none := by
    decide +kernel
  refine ⟨success, (kubernetes_runtime_own_container equalitySelector_selectByID {}
    { id := "a1", name := "install" } _ _ ⟨?_, ?_⟩).1 success⟩
  · intro invalid
    exact absurd invalid (by decide +kernel)
  · decide +kernel

end Tinkerbell.Agent.Kubernetes

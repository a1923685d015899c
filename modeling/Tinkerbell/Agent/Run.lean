import Mathlib.Data.List.Basic
import Tinkerbell.Agent.HumanDuration
import Tinkerbell.Agent.Spec

/-!
Owns: one pass of the agent's loop: reading an action, reporting it as running,
executing it with retries under a timeout, and reporting how it ended.

The surroundings of a pass (what the transport and the runtime answer, and the
clock) are a value of `Surroundings`; the pass gives the calls it makes. The
report of the end is retried by the backoff library until it is written, fails
for good, or the agent's context ends.
-/

namespace Tinkerbell.Agent

open Api

/-- What matters here of a `context.Context`. -/
structure Context where
  deadline : Option Time

/-- `context.Background()`, and what `signal.NotifyContext` and
`errgroup.WithContext` make of it: the context the agent runs in. -/
def background : Context := ⟨none⟩

def withTimeout (parent : Context) (now : Time) (timeout : Duration) : Context :=
  match parent.deadline with
  | some deadline => ⟨some (min deadline (now + timeout))⟩
  | none => ⟨some (now + timeout)⟩

/-- An error with the answers of the tests made on it. -/
structure Err where
  text : String
  /-- `errors.Is(err, context.Canceled)`. -/
  canceled : Bool := false
  /-- `errors.Is(err, context.DeadlineExceeded)`. -/
  deadlineExceeded : Bool := false
  /-- The error has a `NoAction` method. -/
  noAction : Bool := false
  /-- The error is a `backoff.PermanentError`. -/
  permanent : Bool := false

def maxTries (action : Action) : Int :=
  if action.retries = 0 then 1 else action.retries

structure Executed where
  calls : Nat
  state : State

/-- The loop `for i := 1; i <= retries; i++` with `remaining` iterations to go;
`results` is what the successive calls of `Execute` return, `none` being `nil`. -/
def executeLoop (results : Nat → Option Err) : Nat → Executed → Executed
  | 0, executed => executed
  | remaining + 1, executed =>
    match results executed.calls with
    | none => ⟨executed.calls + 1, .success⟩
    | some err =>
      if err.deadlineExceeded then ⟨executed.calls + 1, .timeout⟩
      -- `i == retries` exactly when no iteration remains.
      else if remaining = 0 then ⟨executed.calls + 1, .failure⟩
      else executeLoop results remaining ⟨executed.calls + 1, .failure⟩

def execute (results : Nat → Option Err) (action : Action) : Executed :=
  executeLoop results (maxTries action).toNat ⟨0, .success⟩

/-- What the agent's surroundings answer during one pass. -/
structure Surroundings where
  read : Except Err Action
  /-- The answer to the report that the action runs. -/
  running : Option Err
  executionStart : Time
  /-- The time at which the timeout context is made. -/
  contextStart : Time
  results : Nat → Option Err
  executionStop : Time
  /-- The answers to the attempts to report the end; after the last of them
  the agent's context is done. -/
  firstReport : Option Err
  laterReports : List (Option Err)

inductive Call where
  | read
  | write (event : Event)
  | execute (context : Context) (action : Action)

/-- How the loop goes on after a pass. -/
inductive Next where
  | again
  | backOff (shouldLog : Bool)
  | return

def report (event : Event) : Option Err → List (Option Err) → List Call × Next
  | none, _ => ([.write event], .again)
  | some _, [] => ([.write event], .return)
  | some err, next :: rest =>
    if err.permanent then ([.write event], .return)
    else
      let later := report event next rest
      (.write event :: later.1, later.2)

def timeoutContext (parent : Context) (start : Time) (action : Action) : Context :=
  withTimeout parent start (seconds action.timeoutSeconds)

def responseEvent (surroundings : Surroundings) (action : Action) (state : State) : Event where
  action := { action with
    executionStart := surroundings.executionStart
    executionStop := surroundings.executionStop
    executionDuration :=
      humanDuration (timeSub surroundings.executionStop surroundings.executionStart) 2 }
  message := "action completed"
  state

def executeAndReport (parent : Context) (surroundings : Surroundings) (action : Action) :
    List Call × Next :=
  let started := { action with executionStart := surroundings.executionStart }
  let context := timeoutContext parent surroundings.contextStart started
  let executed := execute surroundings.results started
  let reported := report (responseEvent surroundings action executed.state)
    surroundings.firstReport surroundings.laterReports
  (List.replicate executed.calls (.execute context started) ++ reported.1, reported.2)

def pass (parent : Context) (surroundings : Surroundings) : List Call × Next :=
  match surroundings.read with
  | .error err =>
    if err.canceled then ([.read], .return)
    else ([.read], .backOff (!err.noAction))
  | .ok action =>
    let event : Event := ⟨action, "running action", .running⟩
    match surroundings.running with
    | some err =>
      if err.canceled then ([.read, .write event], .return)
      else ([.read, .write event], .backOff true)
    | none =>
      let rest := executeAndReport parent surroundings action
      (.read :: .write event :: rest.1, rest.2)

def resultState : Option Err → State
  | none => .success
  | some err => if err.deadlineExceeded then .timeout else .failure

/-- The call failed, and not for the deadline. -/
def Retryable (result : Option Err) : Prop :=
  ∃ err, result = some err ∧ err.deadlineExceeded = false

structure Executes (results : Nat → Option Err) (remaining : Nat) (before after : Executed) :
    Prop where
  atLeastOne : before.calls < after.calls
  atMost : after.calls ≤ before.calls + remaining
  last : after.state = resultState (results (after.calls - 1))
  retried : ∀ call, before.calls ≤ call → call + 1 < after.calls → Retryable (results call)

variable {results : Nat → Option Err} {remaining : Nat} {before : Executed} {state : State}

theorem Executes.ofLast (isLast : state = resultState (results before.calls)) :
    Executes results (remaining + 1) before ⟨before.calls + 1, state⟩ where
  atLeastOne := Nat.lt_succ_self _
  atMost := by
    dsimp only
    omega
  last := by simpa using isLast
  retried := by
    intro call fromHere further
    dsimp only at further
    omega

theorem Executes.ofRetry {after : Executed} (retryable : Retryable (results before.calls))
    (later : Executes results remaining ⟨before.calls + 1, state⟩ after) :
    Executes results (remaining + 1) before after where
  atLeastOne := Nat.lt_of_succ_lt later.atLeastOne
  atMost := by
    have atMost := later.atMost
    dsimp only at atMost
    omega
  last := later.last
  retried := by
    intro call fromHere further
    by_cases isFirst : call = before.calls
    · rw [isFirst]
      exact retryable
    · refine later.retried call ?_ further
      dsimp only
      omega

theorem executeLoop_spec (results : Nat → Option Err) (remaining : Nat) (before : Executed) :
    Executes results (remaining + 1) before (executeLoop results (remaining + 1) before) := by
  induction remaining generalizing before with
  | zero =>
    unfold executeLoop
    split
    · next returned => exact Executes.ofLast (by rw [returned]; rfl)
    · next _ failed =>
      split
      · next expired => exact Executes.ofLast (by simp [failed, resultState, expired])
      · next other => exact Executes.ofLast (by simp [failed, resultState, other])
  | succ _ ih =>
    unfold executeLoop
    split
    · next returned => exact Executes.ofLast (by rw [returned]; rfl)
    · next err failed =>
      split
      · next expired => exact Executes.ofLast (by simp [failed, resultState, expired])
      · next other =>
        have retryable : Retryable (results before.calls) :=
          ⟨err, failed, by simpa using other⟩
        exact Executes.ofRetry retryable (ih _)

variable {action : Action} {surroundings : Surroundings} {result : Option Err}

theorem execute_of_nonneg (nonneg : 0 ≤ action.retries) (results : Nat → Option Err) :
    Executes results (max 1 action.retries).toNat ⟨0, .success⟩ (execute results action) := by
  have tries : maxTries action = max 1 action.retries := by
    unfold maxTries
    split <;> omega
  obtain ⟨remaining, isPositive⟩ :
      ∃ remaining, (max 1 action.retries).toNat = remaining + 1 :=
    ⟨(max 1 action.retries).toNat - 1, by omega⟩
  unfold execute
  rw [tries, isPositive]
  exact executeLoop_spec results remaining _

theorem execute_of_neg (negative : action.retries < 0) (results : Nat → Option Err) :
    execute results action = ⟨0, .success⟩ := by
  have none : (maxTries action).toNat = 0 := by
    unfold maxTries
    split <;> omega
  unfold execute
  rw [none]
  rfl

def Call.isExecute : Call → Bool
  | .execute _ _ => true
  | .read | .write _ => false

def executions (calls : List Call) : Nat := calls.countP Call.isExecute

def Call.reportedState : Call → Option State
  | .write event => if event.state = .running then none else some event.state
  | .read | .execute _ _ => none

def reported (calls : List Call) : List State := calls.filterMap Call.reportedState

private theorem report_calls (event : Event) (first : Option Err) (later : List (Option Err)) :
    ∃ attempts, (report event first later).1 = List.replicate (attempts + 1) (.write event) := by
  induction later generalizing first with
  | nil =>
    cases first with
    | none | some err => exact ⟨0, rfl⟩
  | cons next _ ih =>
    cases first with
    | none => exact ⟨0, rfl⟩
    | some =>
      unfold report
      split
      · exact ⟨0, rfl⟩
      · obtain ⟨attempts, written⟩ := ih next
        refine ⟨attempts + 1, ?_⟩
        dsimp only
        rw [written]
        rfl

theorem pass_calls (parent : Context) (isRead : surroundings.read = .ok action)
    (accepted : surroundings.running = none) :
    ∃ attempts, (pass parent surroundings).1 =
      .read :: .write ⟨action, "running action", .running⟩ ::
        (List.replicate (execute surroundings.results action).calls
          (.execute (timeoutContext parent surroundings.contextStart action)
            { action with executionStart := surroundings.executionStart }) ++
        List.replicate (attempts + 1) (.write
          (responseEvent surroundings action (execute surroundings.results action).state))) := by
  obtain ⟨attempts, written⟩ := report_calls
    (responseEvent surroundings action (execute surroundings.results action).state)
    surroundings.firstReport surroundings.laterReports
  refine ⟨attempts, ?_⟩
  rw [← written]
  unfold pass
  rw [isRead, accepted]
  rfl

private theorem executions_pass (parent : Context) (isRead : surroundings.read = .ok action)
    (accepted : surroundings.running = none) :
    executions (pass parent surroundings).1 = (execute surroundings.results action).calls := by
  obtain ⟨_, calls⟩ := pass_calls parent isRead accepted
  rw [calls]
  simp [executions, Call.isExecute, List.countP_replicate]

private theorem execute_state_ne_running (results : Nat → Option Err) (action : Action) :
    (execute results action).state ≠ .running := by
  by_cases nonneg : 0 ≤ action.retries
  · rw [(execute_of_nonneg nonneg results).last]
    unfold resultState
    split
    · nofun
    · split <;> nofun
  · rw [execute_of_neg (by omega)]
    nofun

theorem reported_pass (parent : Context) (isRead : surroundings.read = .ok action)
    (accepted : surroundings.running = none) :
    ∃ attempts, reported (pass parent surroundings).1 =
      List.replicate (attempts + 1) (execute surroundings.results action).state := by
  obtain ⟨attempts, calls⟩ := pass_calls parent isRead accepted
  refine ⟨attempts, ?_⟩
  rw [calls]
  have notRunning := execute_state_ne_running surroundings.results action
  have ended : Call.reportedState (.write (responseEvent surroundings action
      (execute surroundings.results action).state)) =
        some (execute surroundings.results action).state := if_neg notRunning
  unfold reported
  rw [List.filterMap_cons_none rfl, List.filterMap_cons_none rfl, List.filterMap_append,
    List.filterMap_replicate_of_none rfl, List.filterMap_replicate_of_some ended, List.nil_append]

/-- A pass reports what it executed. -/
structure ReportsExecution (results : Nat → Option Err) (retries : Int) (calls : List Call) :
    Prop where
  atLeastOne : 1 ≤ executions calls
  atMost : (executions calls : Int) ≤ max 1 retries
  reports : reported calls ≠ []
  success : ∀ state ∈ reported calls,
    (state = .success ↔ results (executions calls - 1) = none)
  timeout : ∀ state ∈ reported calls, (state = .timeout ↔
    ∃ err, results (executions calls - 1) = some err ∧ err.deadlineExceeded = true)
  failure : ∀ state ∈ reported calls, (state = .failure ↔
    ∃ err, results (executions calls - 1) = some err ∧ err.deadlineExceeded = false)
  retried : ∀ call, call + 1 < executions calls → Retryable (results call)

private theorem resultState_eq_success : resultState result = .success ↔ result = none := by
  cases result with
  | none => simp [resultState]
  | some err => cases expired : err.deadlineExceeded <;> simp [resultState, expired]

theorem resultState_eq_timeout :
    resultState result = .timeout ↔ ∃ err, result = some err ∧ err.deadlineExceeded = true := by
  cases result with
  | none => simp [resultState]
  | some err => cases expired : err.deadlineExceeded <;> simp [resultState, expired]

private theorem resultState_eq_failure :
    resultState result = .failure ↔ ∃ err, result = some err ∧ err.deadlineExceeded = false := by
  cases result with
  | none => simp [resultState]
  | some err => cases expired : err.deadlineExceeded <;> simp [resultState, expired]

/-- A pass that got past the report that the action runs reports what it executed
exactly when the number of retries is not negative. -/
theorem pass_reports_execution_iff (parent : Context) (surroundings : Surroundings)
    (action : Action) (isRead : surroundings.read = .ok action)
    (accepted : surroundings.running = none) :
    ReportsExecution surroundings.results action.retries (pass parent surroundings).1 ↔
      0 ≤ action.retries := by
  have count := executions_pass parent isRead accepted
  constructor
  · intro reportsExecution
    by_contra negative
    have atLeastOne := reportsExecution.atLeastOne
    rw [count, execute_of_neg (by omega)] at atLeastOne
    exact absurd atLeastOne (by decide)
  · intro nonneg
    have executes := execute_of_nonneg nonneg surroundings.results
    obtain ⟨_, states⟩ := reported_pass parent isRead accepted
    have isLast : ∀ state ∈ reported (pass parent surroundings).1,
        state = resultState (surroundings.results
          (executions (pass parent surroundings).1 - 1)) := by
      intro state member
      rw [states] at member
      rw [List.eq_of_mem_replicate member, count]
      exact executes.last
    have atLeastOne := executes.atLeastOne
    have atMost := executes.atMost
    dsimp only at atLeastOne atMost
    refine ⟨by omega, by omega, ?_, ?_, ?_, ?_, ?_⟩
    · rw [states]
      exact List.cons_ne_nil _ _
    · intro state member
      rw [isLast state member]
      exact resultState_eq_success
    · intro state member
      rw [isLast state member]
      exact resultState_eq_timeout
    · intro state member
      rw [isLast state member]
      exact resultState_eq_failure
    · intro call further
      rw [count] at further
      exact executes.retried call (Nat.zero_le call) further

def secondTry (retries : Int) : Surroundings where
  read := .ok { id := "action-0-0", retries, timeoutSeconds := 60 }
  running := none
  executionStart := 10 * second
  contextStart := 10 * second
  results := fun call => if call = 0 then some { text := "exit code 1" } else none
  executionStop := 15 * second
  firstReport := none
  laterReports := []

theorem pass_reports_execution_iff_three :
    ReportsExecution (secondTry 3).results 3 (pass background (secondTry 3)).1 ↔ (0 : Int) ≤ 3 :=
  pass_reports_execution_iff background (secondTry 3) _ rfl rfl

/-- With `-1` retries the action is reported successful and was never executed. -/
theorem negative_retries_reported_success :
    executions (pass background (secondTry (-1))).1 = 0 ∧
    reported (pass background (secondTry (-1))).1 = [.success] ∧
    ¬ReportsExecution (secondTry (-1)).results (-1) (pass background (secondTry (-1))).1 := by
  refine ⟨by decide, by decide, ?_⟩
  intro reportsExecution
  exact absurd reportsExecution.atLeastOne (by decide)

end Tinkerbell.Agent

import Mathlib.Data.List.TakeDrop
import Tinkerbell.Agent.Run
import Tinkerbell.Server.GetAction
import Tinkerbell.Template.Convert

/-!
Owns: the agent's gRPC transport, from the answer of `GetAction` to the action
that the runtime gets, and the environment handed to a container.

What the template says is compared with what comes out at the end in
`Delivered`: the conversion to a status, the response of the server and the
decoding of the agent are composed.
-/

namespace Tinkerbell.Agent

open Server (ActionResponse actionResponse joinEnvironment)
open Template (IdSource convertTask convertAction)

inductive RpcCode where
  | notFound
  | failedPrecondition
  | other (code : Nat)
deriving DecidableEq

structure RpcError where
  text : String
  code : RpcCode
  violations : List String := []

def noActionAvailable : String := "PRECONDITION_FAILURE_VIOLATION_NO_ACTION_AVAILABLE"

def isPFVNoActionsAvailable (err : RpcError) : Bool :=
  err.violations.any (· = noActionAvailable) || err.code = .failedPrecondition

/-- `strings.SplitN(v, "=", 2)`; without a separator the value is empty. -/
def splitEnv (text : String) : Env :=
  let parts := text.toList.span (· ≠ '=')
  ⟨String.ofList parts.1, String.ofList (parts.2.drop 1)⟩

def decodeAction (response : ActionResponse) : Action where
  taskID := response.taskId
  id := response.actionId
  agentID := response.agentId
  workflowID := response.workflowId
  name := response.name
  image := response.image
  timeoutSeconds := response.timeout
  args := response.command
  volumes := response.volumes
  env := response.environment.map splitEnv
  namespaces :=
    match response.namespaces with
    | none => { pid := response.pid }
    | some given =>
      { network := given.network, pid := if given.pid ≠ "" then given.pid else response.pid }

def doRead : Except RpcError ActionResponse → Except Err Action
  | .error err =>
    if err.code = .notFound then .error { text := "No workflow found" }
    else if isPFVNoActionsAvailable err then
      .error { text := "no actions available: " ++ err.text, noAction := true }
    else .error { text := "error getting action: " ++ err.text }
  | .ok response => .ok (decodeAction response)

def parseEnv (envs : List Env) : List String :=
  envs.map fun env => env.key ++ "=" ++ env.value

/-- No key has a `=` in it. -/
def PlainKeys (environment : KeyedMap String String) : Prop :=
  ∀ key ∈ environment.keys, '=' ∉ key.toList

instance (environment : KeyedMap String String) : Decidable (PlainKeys environment) :=
  inferInstanceAs (Decidable (∀ key ∈ environment.keys, '=' ∉ key.toList))

theorem splitEnv_join {key : String} (plain : '=' ∉ key.toList) (value : String) :
    splitEnv (key ++ "=" ++ value) = ⟨key, value⟩ := by
  have passes : ∀ char ∈ key.toList, decide (char ≠ '=') = true := by
    intro char member
    exact decide_eq_true fun isSeparator => plain (isSeparator ▸ member)
  have text : (key ++ "=" ++ value).toList = key.toList ++ '=' :: value.toList := by simp
  unfold splitEnv
  rw [text, List.span_eq_takeWhile_dropWhile, List.takeWhile_append_of_pos passes,
    List.dropWhile_append_of_pos passes]
  simp

def effectiveValue (task : Template.Task) (action : Template.Action) (key : String) :
    Option String :=
  (action.environment.get key).or (task.environment.get key)

def joinedEnvironment (task action : KeyedMap String String) : KeyedMap String String :=
  (KeyedMap.empty.copy task).copy action

theorem get_joinedEnvironment (task action : KeyedMap String String) (key : String) :
    (joinedEnvironment task action).get key = (action.get key).or (task.get key) := by
  unfold joinedEnvironment
  rw [KeyedMap.get_copy, KeyedMap.get_copy]
  simp [KeyedMap.get, KeyedMap.empty, KeyedMap.findEntry]

theorem mem_keys_joinedEnvironment {task action : KeyedMap String String} {key : String}
    (member : key ∈ (joinedEnvironment task action).keys) :
    key ∈ task.keys ∨ key ∈ action.keys := by
  by_contra absent
  rw [not_or] at absent
  obtain ⟨_, isEntry, rfl⟩ := List.mem_map.mp member
  have found := KeyedMap.mem_entries_iff.mp isEntry
  rw [get_joinedEnvironment, KeyedMap.get_eq_none_of_notMem absent.1,
    KeyedMap.get_eq_none_of_notMem absent.2] at found
  cases found

theorem decoded_environment {task action : KeyedMap String String} (plainTask : PlainKeys task)
    (plainAction : PlainKeys action) :
    ((joinEnvironment task action).map splitEnv).Perm
      ((joinedEnvironment task action).entries.map fun entry => ⟨entry.1, entry.2⟩) := by
  have sorted := List.perm_insertionSort (· ≤ ·)
    ((joinedEnvironment task action).entries.map fun entry => entry.1 ++ "=" ++ entry.2)
  refine (sorted.map splitEnv).trans ?_
  rw [List.map_map]
  apply List.Perm.of_eq
  apply List.map_congr_left
  intro entry member
  apply splitEnv_join
  rcases mem_keys_joinedEnvironment (List.mem_map_of_mem member) with inTask | inAction
  · exact plainTask entry.1 inTask
  · exact plainAction entry.1 inAction

def unreported (action : Api.Action) : Api.Action :=
  { action with
    state := .unset, executionStart := none, executionStop := none, executionDuration := "",
    message := "" }

def unreportedTask (task : Api.Task) : Api.Task :=
  { task with actions := task.actions.map unreported }

/-- The action that the runtime gets is the one of the template. -/
structure Delivered (task : Template.Task) (action : Template.Action) (delivered : Action) :
    Prop where
  name : delivered.name = action.name
  image : delivered.image = action.image
  timeout : delivered.timeoutSeconds = action.timeout
  command : delivered.cmd = "" ∧ delivered.args = action.command
  volumes : delivered.volumes = task.volumes ++ action.volumes
  keysOnce : (delivered.env.map Env.key).Nodup
  environment : ∀ key value, ⟨key, value⟩ ∈ delivered.env ↔
    effectiveValue task action key = some value
  container : ∀ text, text ∈ parseEnv delivered.env ↔
    ∃ key value, effectiveValue task action key = some value ∧
      text = key ++ "=" ++ value
  network : delivered.namespaces.network = action.namespaces.network
  pid : delivered.namespaces.pid =
    if action.namespaces.pid ≠ "" then action.namespaces.pid else action.pid

theorem actionResponse_unreported (agentID : String) (wf : Api.Workflow) (task : Api.Task)
    (action : Api.Action) :
    actionResponse agentID wf (unreportedTask task) (unreported action) =
      actionResponse agentID wf task action := rfl

section Delivery

variable (ids : IdSource) (taskIndex actionIndex : Nat) (task : Template.Task)
  (action : Template.Action) (agentID : String) (wf : Api.Workflow)

def deliveredAction : Action :=
  decodeAction (actionResponse agentID wf (convertTask ids taskIndex task)
    (convertAction ids taskIndex actionIndex action))

theorem namespaces_deliveredAction :
    (deliveredAction ids taskIndex actionIndex task action agentID wf).namespaces =
      ⟨action.namespaces.network,
        if action.namespaces.pid ≠ "" then action.namespaces.pid else action.pid⟩ := by
  simp only [deliveredAction, decodeAction, actionResponse, convertAction]
  by_cases given : action.namespaces.network ≠ "" ∨ action.namespaces.pid ≠ ""
  · simp only [if_pos given, Option.map_some]
    by_cases pidGiven : action.namespaces.pid = "" <;> simp [pidGiven]
  · have unset := not_or.mp given
    simp only [ne_eq, not_not] at unset
    simp [unset.1, unset.2]

theorem mem_decoded_environment {task : Template.Task} {action : Template.Action}
    (plainTask : PlainKeys task.environment) (plainAction : PlainKeys action.environment)
    (key value : String) :
    ⟨key, value⟩ ∈ (joinEnvironment task.environment action.environment).map splitEnv ↔
      effectiveValue task action key = some value := by
  rw [(decoded_environment plainTask plainAction).mem_iff, effectiveValue,
    ← get_joinedEnvironment, ← KeyedMap.mem_entries_iff, List.mem_map]
  constructor
  · rintro ⟨entry, member, same⟩
    cases same
    exact member
  · intro member
    exact ⟨_, member, rfl⟩

theorem delivered_deliveredAction (plainTask : PlainKeys task.environment)
    (plainAction : PlainKeys action.environment) :
    Delivered task action
      (deliveredAction ids taskIndex actionIndex task action agentID wf) := by
  have namespaces := namespaces_deliveredAction ids taskIndex actionIndex task action agentID wf
  have isEnv : (deliveredAction ids taskIndex actionIndex task action agentID wf).env =
      (joinEnvironment task.environment action.environment).map splitEnv := rfl
  have effective := mem_decoded_environment plainTask plainAction
  refine ⟨rfl, rfl, rfl, ⟨rfl, rfl⟩, rfl, ?_, ?_, ?_, ?_, ?_⟩
  · rw [isEnv]
    apply ((decoded_environment plainTask plainAction).map Env.key).nodup_iff.mpr
    rw [List.map_map]
    exact (joinedEnvironment task.environment action.environment).distinct
  · rw [isEnv]
    exact effective
  · rw [isEnv]
    intro text
    unfold parseEnv
    rw [List.mem_map]
    constructor
    · rintro ⟨env, member, rfl⟩
      exact ⟨env.key, env.value, (effective env.key env.value).mp member, rfl⟩
    · rintro ⟨key, value, found, rfl⟩
      exact ⟨⟨key, value⟩, (effective key value).mpr found, rfl⟩
  · rw [namespaces]
  · rw [namespaces]

end Delivery

end Tinkerbell.Agent

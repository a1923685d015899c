import Tinkerbell.Api.Time

/-!
Owns: the action as the agent's runtime gets it and the events the agent
reports, with the states an event can carry.
-/

namespace Tinkerbell.Agent

open Api

structure Env where
  (key value : String)

structure Namespaces where
  (network pid : String := "")

structure Action where
  (agentID taskID workflowID id name image cmd : String := "")
  args : List String := []
  env : List Env := []
  volumes : List String := []
  namespaces : Namespaces := {}
  (retries timeoutSeconds : Int := 0)
  (executionStart executionStop : Time := zeroTime)
  executionDuration : String := ""

inductive State where
  | success
  | failure
  | running
  | timeout
  | unknown
deriving DecidableEq

structure Event where
  action : Action
  message : String
  state : State

end Tinkerbell.Agent

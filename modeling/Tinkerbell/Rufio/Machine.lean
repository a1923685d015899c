import Tinkerbell.Controller.Client
import Tinkerbell.Library.ObjectStore
import Tinkerbell.Rufio.Task

/-!
Owns: the Machine reconciler of the BMC controller: the power state it reads
and stores, and the inventory it collects for the Hardware that refers to the
Machine.

The reconciler keeps the Machine it works on in memory. A patch sends the
difference between an earlier copy and that object, and the answer of the server
then takes the place of that object, status and all. What the BMC reports about its
parts is a type parameter: it is stored and compared, never looked into.

Does not own: the BMC library; its answers, like those of the server and of the
clock, are fields of `MachineReplies`. The jitter of a Machine is a fixed
number of the configuration.
-/

namespace Tinkerbell.Rufio

open Api
open Controller (WriteReply)

def refreshInventoryAnnotation : String := "tinkerbell.org/refresh-inventory"

def disableOutOfBandInventoryAnnotation : String :=
  "tinkerbell.org/disable-outofband-inventory"

structure Attributes (Content : Type) where
  lastUpdated : Option Time := none
  collectionMethod : String := ""
  content : Content

/-- What the reconciler sees of a Hardware. -/
structure InventoryHardware (Content : Type) where
  (name «namespace» : String)
  annotations : KeyedMap String String := KeyedMap.empty
  bmcRef : Option String := none
  outOfBand : Option (Attributes Content) := none

def InventoryHardware.key {Content : Type} (hardware : InventoryHardware Content) :
    String × String :=
  (hardware.namespace, hardware.name)

/-- What the reconciler finds in the cluster and leaves there. -/
structure MachineCluster (Content : Type) where
  machine : Bmc.Machine
  hardware : ObjectStore (@InventoryHardware.key Content)

structure InventoryConfig where
  inventoryCollectionEnabled : Bool := true
  (inventoryRefreshInterval inventoryJitter : Duration)
  powerCheckInterval : Duration := 0

/-- The environment of one reconcile. `cleared` answers the attempts to remove
the refresh annotation, as many as are made. -/
structure MachineReplies (Content : Type) where
  now : Time
  (credentialsError connectError : Option String := none)
  powerState : Except String String
  listError : Option String := none
  dueAt : Time
  /-- `none` when the provider has nothing to report. -/
  inventory : Except String (Option Content)
  successfulProvider : String := ""
  appliedAt : Time
  applied : WriteReply := .done
  cleared : List WriteReply := []
  statusPatched : WriteReply := .done

structure Collection where
  (dueAt appliedAt : Time)
  succeeded : Bool
deriving DecidableEq

section Inventory

variable {Content : Type}

def hardwareBMCRefIndexFunc (hardware : InventoryHardware Content) : List String :=
  match hardware.bmcRef with
  | none => []
  | some name => [name]

def linkedHardware (machine : Bmc.Machine) (hardware : InventoryHardware Content) :
    Bool :=
  hardware.namespace = machine.namespace ∧
    machine.name ∈ hardwareBMCRefIndexFunc hardware

def findLinkedHardware (cluster : MachineCluster Content) (listError : Option String) :
    Except String (Option (InventoryHardware Content)) :=
  let machine := cluster.machine
  match listError with
  | some err => .error ("failed to list Hardware for Machine " ++ machine.namespace ++
      "/" ++ machine.name ++ ": " ++ err)
  | none =>
    match cluster.hardware.items.filter (linkedHardware machine) with
    | [] => .ok none
    | [hardware] => .ok (some hardware)
    | several => .error ("ambiguous Hardware link for Machine " ++ machine.namespace ++
        "/" ++ machine.name ++ ": " ++ toString several.length ++
        " Hardware objects reference it via spec.bmcRef, want at most 1")

def isRequested (annotations : KeyedMap String String) (name : String) : Bool :=
  annotations.get name = some "true"

def dueForInventoryRefresh (hardware : InventoryHardware Content) (machine : Bmc.Machine)
    (config : InventoryConfig) (now : Time) : Bool :=
  if isRequested machine.annotations refreshInventoryAnnotation then true
  else
    match hardware.outOfBand.bind Attributes.lastUpdated with
    | none => true
    | some lastUpdated =>
      wrapInt64 (config.inventoryRefreshInterval + config.inventoryJitter) <
        timeSub now lastUpdated

variable [DecidableEq Content] [Inhabited Content]

def newAttributes (existing : Option (Attributes Content)) (device : Option Content)
    (collectionMethod : String) (now : Time) : Option (Attributes Content) :=
  match device with
  | none =>
    -- Nothing new, but the time of the collection is recorded.
    let content := (existing.map Attributes.content).getD default
    some ⟨some now, collectionMethod, content⟩
  | some content =>
    -- Everything but the time is compared; an unchanged inventory is not written.
    if existing.map (fun old => (old.collectionMethod, old.content)) =
        some (collectionMethod, content) then none
    else some ⟨some now, collectionMethod, content⟩

def applyHardwareOutOfBand (cluster : MachineCluster Content)
    (hardware : InventoryHardware Content) (attributes : Attributes Content)
    (reply : WriteReply) : MachineCluster Content × Option String :=
  let stored := { attributes with lastUpdated := attributes.lastUpdated.bind storedTime }
  let after := if reply.TookEffect then
      { cluster with
        hardware := cluster.hardware.modify hardware.key
          (fun current => { current with outOfBand := some stored }) (fun _ => rfl) }
    else cluster
  (after, reply.error.map fun err => "failed to apply Hardware " ++ hardware.namespace ++
    "/" ++ hardware.name ++ " status.attributes.outOfBand: " ++ err)

def reconcileInventory (cluster : MachineCluster Content)
    (hardware : InventoryHardware Content) (replies : MachineReplies Content) :
    MachineCluster Content × Option String :=
  match replies.inventory with
  | .error err => (cluster, some ("get BMC inventory: " ++ err))
  | .ok device =>
    match newAttributes hardware.outOfBand device replies.successfulProvider
        replies.appliedAt with
    | none => (cluster, none)
    | some attributes => applyHardwareOutOfBand cluster hardware attributes replies.applied

end Inventory

def patchMachine (original updated stored : Bmc.Machine) : Bmc.Machine :=
  { stored with
    annotations := KeyedMap.merge MergePatch.mergeField original.annotations
      updated.annotations stored.annotations }

def patchMachineStatus (original updated stored : Bmc.Machine) : Bmc.Machine :=
  { stored with
    status :=
      { power := MergePatch.mergeField original.status.power updated.status.power
          stored.status.power
        conditions := MergePatch.mergeField original.status.conditions
          updated.status.conditions stored.status.conditions } }

/-- The attempts at one patch, until one is answered without an error: the stored
Machine after them and the one in memory. -/
def patchAttempts (original updated : Bmc.Machine) :
    List WriteReply → Bmc.Machine → Bmc.Machine × Bmc.Machine
  | [], stored => (stored, updated)
  | .done :: _, stored =>
    -- The client empties its target before it decodes the answer into it.
    let answer := patchMachine original updated stored
    (answer, answer)
  | .lost _ :: rest, stored =>
    patchAttempts original updated rest (patchMachine original updated stored)
  | .refused _ :: rest, stored => patchAttempts original updated rest stored

def clearRefreshInventoryAnnotation (stored memory : Bmc.Machine)
    (replies : List WriteReply) : Bmc.Machine × Bmc.Machine :=
  if isRequested memory.annotations refreshInventoryAnnotation then
    let updated := { memory with
      annotations := memory.annotations.erase refreshInventoryAnnotation }
    patchAttempts memory updated (replies.take 3) stored
  else (stored, memory)

section Reconcile

variable {Content : Type} [DecidableEq Content] [Inhabited Content]

structure InventoryOutcome (Content : Type) where
  cluster : MachineCluster Content
  memory : Bmc.Machine
  collection : Option Collection := none

def collectInventory (cluster : MachineCluster Content)
    (hardware : InventoryHardware Content) (memory : Bmc.Machine)
    (replies : MachineReplies Content) : InventoryOutcome Content :=
  match reconcileInventory cluster hardware replies with
  | (after, some _) => ⟨after, memory, some ⟨replies.dueAt, replies.appliedAt, false⟩⟩
  | (after, none) =>
    let (machine, memory) := clearRefreshInventoryAnnotation after.machine memory
      replies.cleared
    ⟨{ after with machine }, memory,
      some ⟨replies.dueAt, replies.appliedAt, true⟩⟩

def reconcileInventoryIfDue (config : InventoryConfig) (cluster : MachineCluster Content)
    (memory : Bmc.Machine) (replies : MachineReplies Content) :
    InventoryOutcome Content :=
  if config.inventoryCollectionEnabled = false then ⟨cluster, memory, none⟩
  else
    match findLinkedHardware cluster replies.listError with
    | .error _ => ⟨cluster, memory, none⟩
    | .ok none => ⟨cluster, memory, none⟩
    | .ok (some hardware) =>
      if isRequested hardware.annotations disableOutOfBandInventoryAnnotation ∨
          dueForInventoryRefresh hardware memory config replies.dueAt = false then
        ⟨cluster, memory, none⟩
      else collectInventory cluster hardware memory replies

def observePower (now : Time) (powerState : Except String String)
    (memory : Bmc.Machine) : Bmc.Machine :=
  match powerState with
  | .ok raw =>
    { memory with
      status := ({ memory.status with
        power := some (toPowerState raw) } : Bmc.MachineStatus).setCondition now
          .contactable .true "" }
  | .error err =>
    { memory with
      status := ({ memory.status with
        power := some .unknown } : Bmc.MachineStatus).setCondition now
          .contactable .false ("get power state: " ++ err) }

structure MachineOutcome (Content : Type) where
  cluster : MachineCluster Content
  collection : Option Collection := none
  result : Except (List String) Duration

def patchResult (machine : Bmc.Machine) (reply : WriteReply) (errors : List String)
    (requeueAfter : Duration) : Except (List String) Duration :=
  match reply.error with
  | none => .ok requeueAfter
  | some err => .error (errors ++ ["failed to patch Machine " ++ machine.namespace ++ "/" ++
      machine.name ++ " status: " ++ err])

def writeStatus (cluster : MachineCluster Content) (read memory : Bmc.Machine)
    (reply : WriteReply) : MachineCluster Content :=
  if reply.TookEffect then
    { cluster with machine := patchMachineStatus read memory cluster.machine }
  else cluster

def reportUnreachable (config : InventoryConfig) (cluster : MachineCluster Content)
    (replies : MachineReplies Content) (err : String) : MachineOutcome Content :=
  let read := cluster.machine
  let memory := { read with
    status := { read.status.setCondition replies.now .contactable .false err with
      power := some .unknown } }
  ⟨writeStatus cluster read memory replies.statusPatched, none,
    match replies.statusPatched.error with
    | none => .ok config.powerCheckInterval
    | some patchErr => .error ["failed to patch Machine " ++ read.namespace ++ "/" ++
        read.name ++ " status: " ++ patchErr, err]⟩

def reportReachable (config : InventoryConfig) (cluster : MachineCluster Content)
    (replies : MachineReplies Content) : MachineOutcome Content :=
  let read := cluster.machine
  let observed := observePower replies.now replies.powerState read
  let inventory := reconcileInventoryIfDue config cluster observed replies
  let errors := match replies.powerState with
    | .ok _ => []
    | .error err => ["get power state: " ++ err]
  ⟨writeStatus inventory.cluster read inventory.memory replies.statusPatched,
    inventory.collection,
    patchResult read replies.statusPatched errors config.powerCheckInterval⟩

def reconcileMachine (config : InventoryConfig) (cluster : MachineCluster Content)
    (replies : MachineReplies Content) : MachineOutcome Content :=
  if cluster.machine.deletionTimestamp.isSome then ⟨cluster, none, .ok 0⟩
  else
    match replies.credentialsError with
    | some err => ⟨cluster, none, .error [err]⟩
    | none =>
      match replies.connectError with
      | some err => reportUnreachable config cluster replies err
      | none => reportReachable config cluster replies

theorem annotations_observePower (now : Time) (observed : Except String String)
    (memory : Bmc.Machine) :
    (observePower now observed memory).annotations = memory.annotations := by
  cases observed <;> rfl

theorem machine_reconcileInventory (cluster : MachineCluster Content)
    (hardware : InventoryHardware Content) (replies : MachineReplies Content) :
    (reconcileInventory cluster hardware replies).1.machine = cluster.machine := by
  unfold reconcileInventory
  split
  · rfl
  · split
    · rfl
    · unfold applyHardwareOutOfBand
      dsimp only
      split <;> rfl

variable {cluster : MachineCluster Content}

variable {hardware : InventoryHardware Content} {config : InventoryConfig} {memory : Bmc.Machine}
  {replies : MachineReplies Content}

omit [DecidableEq Content] [Inhabited Content] in
theorem findLinkedHardware_eq_some {listError : Option String} :
    findLinkedHardware cluster listError = .ok (some hardware) ↔
      listError = none ∧
        cluster.hardware.items.filter (linkedHardware cluster.machine) = [hardware] := by
  unfold findLinkedHardware
  cases listError with
  | some => simp
  | none =>
    dsimp only
    cases cluster.hardware.items.filter (linkedHardware cluster.machine) with
    | nil => simp
    | cons _ tail =>
      cases tail with
      | nil | cons next rest => simp

/-- The reconcile calls for the inventory of a Hardware. -/
structure Collects (config : InventoryConfig) (cluster : MachineCluster Content)
    (memory : Bmc.Machine) (replies : MachineReplies Content)
    (hardware : InventoryHardware Content) : Prop where
  enabled : config.inventoryCollectionEnabled = true
  listed : replies.listError = none
  linked : cluster.hardware.items.filter (linkedHardware cluster.machine) = [hardware]
  allowed : isRequested hardware.annotations disableOutOfBandInventoryAnnotation = false
  due : dueForInventoryRefresh hardware memory config replies.dueAt = true

theorem reconcileInventoryIfDue_eq (collects : Collects config cluster memory replies hardware) :
    reconcileInventoryIfDue config cluster memory replies =
      collectInventory cluster hardware memory replies := by
  have found := findLinkedHardware_eq_some.mpr ⟨collects.listed, collects.linked⟩
  unfold reconcileInventoryIfDue
  rw [if_neg (by simp [collects.enabled]), found]
  dsimp only
  rw [if_neg (by simp [collects.allowed, collects.due])]

theorem reconcileInventoryIfDue_idle
    (idle : ∀ hardware, ¬Collects config cluster memory replies hardware) :
    reconcileInventoryIfDue config cluster memory replies = ⟨cluster, memory, none⟩ := by
  unfold reconcileInventoryIfDue
  split
  · rfl
  · next enabled =>
    split
    · rfl
    · rfl
    · next hardware found =>
      obtain ⟨listed, linked⟩ := findLinkedHardware_eq_some.mp found
      split
      · rfl
      · next due =>
        simp only [not_or, Bool.not_eq_true, Bool.not_eq_false] at due enabled
        exact absurd ⟨enabled, listed, linked, due.1, due.2⟩ (idle hardware)

end Reconcile

end Tinkerbell.Rufio

import Tinkerbell.Rufio.Machine

/-!
Owns: whether the power state that a reconcile reads is the one it stores.

Between the reading and the status patch the Machine in memory may go through
the patch that removes the refresh annotation. The answer to that patch carries
the stored status and replaces the new one. The reconciles that store what they
observed are characterised exactly.
-/

namespace Tinkerbell.Rufio

open Api
open Controller (WriteReply)

private theorem patchAttempts_status (original updated stored : Bmc.Machine)
    (replies : List WriteReply) :
    (patchAttempts original updated replies stored).1.status = stored.status ∧
      (patchAttempts original updated replies stored).2.status =
        if .done ∈ replies then stored.status else updated.status := by
  induction replies generalizing stored with
  | nil => exact ⟨rfl, rfl⟩
  | cons reply _ ih =>
    cases reply with
    | done =>
      refine ⟨rfl, ?_⟩
      rfl
    | lost =>
      obtain ⟨same, memory⟩ := ih (patchMachine original updated stored)
      refine ⟨same, ?_⟩
      simp only [List.mem_cons, reduceCtorEq, false_or]
      exact memory
    | refused =>
      obtain ⟨same, memory⟩ := ih stored
      refine ⟨same, ?_⟩
      simp only [List.mem_cons, reduceCtorEq, false_or]
      exact memory

private theorem clearRefreshInventoryAnnotation_status (stored memory : Bmc.Machine)
    (replies : List WriteReply) :
    let cleared := clearRefreshInventoryAnnotation stored memory replies
    cleared.1.status = stored.status ∧
      cleared.2.status =
        if isRequested memory.annotations refreshInventoryAnnotation ∧
            .done ∈ replies.take 3 then stored.status
        else memory.status := by
  unfold clearRefreshInventoryAnnotation
  split
  · next requested =>
    have attempts := patchAttempts_status memory { memory with
      annotations := memory.annotations.erase refreshInventoryAnnotation } stored
      (replies.take 3)
    simp only [requested, true_and]
    exact attempts
  · next notRequested => simp [notRequested]

/-- The power state that an answer of the BMC stands for. -/
def observedPower : Except String String → Bmc.PowerState
  | .ok raw => toPowerState raw
  | .error _ => .unknown

def observedContact : Except String String → Bmc.ConditionStatus
  | .ok _ => .true
  | .error _ => .false

/-- A status that tells what was observed: the power state, and whether the BMC
answered. -/
def Shows (status : Bmc.MachineStatus) (observed : Except String String) : Prop :=
  status.power = some (observedPower observed) ∧
    status.condition .contactable = some (observedContact observed)

instance (status : Bmc.MachineStatus) (observed : Except String String) :
    Decidable (Shows status observed) :=
  inferInstanceAs (Decidable (_ ∧ _))

private theorem shows_observePower (now : Time) (observed : Except String String)
    (memory : Bmc.Machine) : Shows (observePower now observed memory).status observed := by
  cases observed with
  | ok =>
    refine ⟨rfl, ?_⟩
    exact Bmc.MachineStatus.condition_setCondition _ now .contactable .true ""
  | error =>
    refine ⟨rfl, ?_⟩
    exact Bmc.MachineStatus.condition_setCondition _ now .contactable .false _

section Observed

variable {Content : Type} [DecidableEq Content] [Inhabited Content]

def InventoryStored (hardware : InventoryHardware Content)
    (replies : MachineReplies Content) : Prop :=
  ∃ device, replies.inventory = .ok device ∧
    (newAttributes hardware.outOfBand device replies.successfulProvider
      replies.appliedAt = none ∨ replies.applied = .done)

theorem reconcileInventory_error (cluster : MachineCluster Content)
    (hardware : InventoryHardware Content) (replies : MachineReplies Content) :
    (reconcileInventory cluster hardware replies).2 = none ↔ InventoryStored hardware replies := by
  unfold reconcileInventory InventoryStored
  cases collected : replies.inventory with
  | error => simp
  | ok device =>
    simp only [Except.ok.injEq, exists_eq_left']
    cases newAttributes hardware.outOfBand device replies.successfulProvider
        replies.appliedAt with
    | none => simp
    | some attributes =>
      unfold applyHardwareOutOfBand
      cases replies.applied <;> simp [WriteReply.error]

/-- The reconcile removes the refresh annotation and sees that it did: an
inventory was requested, collected and stored for the linked Hardware, and one
of the three attempts to remove the annotation succeeded. -/
structure ClearsRefresh (config : InventoryConfig) (cluster : MachineCluster Content)
    (replies : MachineReplies Content) : Prop where
  connected : replies.connectError = none
  enabled : config.inventoryCollectionEnabled = true
  listed : replies.listError = none
  linked : ∃ hardware,
    cluster.hardware.items.filter (linkedHardware cluster.machine) = [hardware] ∧
      isRequested hardware.annotations disableOutOfBandInventoryAnnotation = false ∧
      InventoryStored hardware replies
  requested : isRequested cluster.machine.annotations refreshInventoryAnnotation = true
  cleared : .done ∈ replies.cleared.take 3

private theorem collectInventory_status (cluster : MachineCluster Content)
    (hardware : InventoryHardware Content) (memory : Bmc.Machine)
    (replies : MachineReplies Content) :
    (collectInventory cluster hardware memory replies).cluster.machine.status =
        cluster.machine.status ∧
      (collectInventory cluster hardware memory replies).memory.status =
        if (reconcileInventory cluster hardware replies).2 = none ∧
            isRequested memory.annotations refreshInventoryAnnotation ∧
            .done ∈ replies.cleared.take 3 then cluster.machine.status
        else memory.status := by
  have sameMachine := machine_reconcileInventory cluster hardware replies
  unfold collectInventory
  split
  · next after _ collected =>
    rw [collected] at sameMachine ⊢
    rw [show after.machine = cluster.machine from sameMachine]
    simp
  · next after collected =>
    rw [collected] at sameMachine ⊢
    have cleared := clearRefreshInventoryAnnotation_status after.machine memory
      replies.cleared
    rw [show after.machine = cluster.machine from sameMachine] at cleared ⊢
    simpa using cleared

variable (config : InventoryConfig)

theorem reconcileInventoryIfDue_status (cluster : MachineCluster Content) (memory : Bmc.Machine)
    (replies : MachineReplies Content) (connected : replies.connectError = none)
    (same : memory.annotations = cluster.machine.annotations) :
    (reconcileInventoryIfDue config cluster memory replies).cluster.machine.status =
        cluster.machine.status ∧
      (ClearsRefresh config cluster replies →
        (reconcileInventoryIfDue config cluster memory replies).memory.status =
          cluster.machine.status) ∧
      (¬ClearsRefresh config cluster replies →
        (reconcileInventoryIfDue config cluster memory replies).memory.status = memory.status) := by
  by_cases collects : ∃ hardware, Collects config cluster memory replies hardware
  · obtain ⟨hardware, collects⟩ := collects
    obtain ⟨sameStatus, inMemory⟩ := collectInventory_status cluster hardware memory replies
    rw [reconcileInventoryIfDue_eq collects]
    refine ⟨sameStatus, ?_, ?_⟩
    · rintro ⟨_, _, _, ⟨other, linked, _, stored⟩, requested, cleared⟩
      have isHardware : other = hardware := by
        rw [collects.linked] at linked
        exact (List.singleton_inj.mp linked).symm
      subst isHardware
      rw [inMemory, if_pos]
      rw [reconcileInventory_error, same]
      exact ⟨stored, requested, cleared⟩
    · intro keeps
      rw [inMemory, if_neg]
      rintro ⟨stored, requested, cleared⟩
      apply keeps
      rw [reconcileInventory_error] at stored
      rw [same] at requested
      exact ⟨connected, collects.enabled, collects.listed,
        ⟨hardware, collects.linked, collects.allowed, stored⟩, requested, cleared⟩
  · have idle : ∀ hardware, ¬Collects config cluster memory replies hardware :=
      not_exists.mp collects
    rw [reconcileInventoryIfDue_idle idle]
    refine ⟨rfl, ?_, fun _ => rfl⟩
    -- A requested inventory is due, so it would have been collected.
    rintro ⟨_, enabled, listed, ⟨hardware, linked, allowed, _⟩, requested, _⟩
    have due : dueForInventoryRefresh hardware memory config replies.dueAt = true := by
      unfold dueForInventoryRefresh
      rw [same, if_pos requested]
    exact absurd ⟨enabled, listed, linked, allowed, due⟩ (idle hardware)

def observation (replies : MachineReplies Content) : Except String String :=
  match replies.connectError with
  | some err => .error err
  | none => replies.powerState

omit [DecidableEq Content] [Inhabited Content] in
theorem status_writeStatus {cluster : MachineCluster Content} {read : Bmc.Machine}
    {reply : WriteReply} (same : cluster.machine.status = read.status)
    (memory : Bmc.Machine) (patched : reply.TookEffect) :
    (writeStatus cluster read memory reply).machine.status = memory.status := by
  unfold writeStatus patchMachineStatus
  rw [if_pos patched]
  simp [same]

omit [DecidableEq Content] [Inhabited Content] in
private theorem status_reportUnreachable (cluster : MachineCluster Content)
    (replies : MachineReplies Content) (err : String) (patched : replies.statusPatched.TookEffect) :
    Shows (reportUnreachable config cluster replies err).cluster.machine.status
      (.error err) := by
  unfold reportUnreachable
  rw [status_writeStatus rfl _ patched]
  refine ⟨rfl, ?_⟩
  exact Bmc.MachineStatus.condition_setCondition _ replies.now .contactable .false err

theorem status_reportReachable (cluster : MachineCluster Content) (replies : MachineReplies Content)
    (connected : replies.connectError = none) (patched : replies.statusPatched.TookEffect) :
    Shows (reportReachable config cluster replies).cluster.machine.status
        replies.powerState ↔
      (ClearsRefresh config cluster replies →
        Shows cluster.machine.status replies.powerState) := by
  have inventory := reconcileInventoryIfDue_status config cluster
    (observePower replies.now replies.powerState cluster.machine) replies connected
    (annotations_observePower _ _ _)
  have shows := shows_observePower replies.now replies.powerState cluster.machine
  unfold reportReachable
  rw [status_writeStatus inventory.1 _ patched]
  by_cases clears : ClearsRefresh config cluster replies
  · rw [inventory.2.1 clears]
    simp [clears]
  · rw [inventory.2.2 clears]
    simp [clears, shows]

/-- A reconcile that reads the power state and writes the status stores what it
observed, unless it clears a refresh request while the stored status shows
something else. -/
theorem observed_power_stored_iff (config : InventoryConfig)
    (cluster : MachineCluster Content) (replies : MachineReplies Content)
    (found : cluster.machine.deletionTimestamp = none)
    (credentials : replies.credentialsError = none)
    (patched : replies.statusPatched.TookEffect) :
    Shows (reconcileMachine config cluster replies).cluster.machine.status
        (observation replies) ↔
      (ClearsRefresh config cluster replies →
        Shows cluster.machine.status (observation replies)) := by
  unfold reconcileMachine observation
  rw [found, credentials]
  cases connected : replies.connectError with
  | some err =>
    refine iff_of_true (status_reportUnreachable config cluster replies err patched) ?_
    intro clears
    rw [clears.connected] at connected
    cases connected
  | none => exact status_reportReachable config cluster replies connected patched

end Observed

/-! A Machine whose refresh is requested, and the Hardware that refers to it. -/

def observedCluster (status : Bmc.MachineStatus) : MachineCluster String where
  machine :=
    { name := "bmc", «namespace» := "metal"
      annotations := KeyedMap.empty.set refreshInventoryAnnotation "true"
      status }
  hardware := ⟨[{ name := "node", «namespace» := "metal", bmcRef := some "bmc" }], by decide⟩

def poweredOn : MachineReplies String where
  now := 1
  powerState := .ok "on"
  dueAt := 2
  inventory := .ok (some "two disks")
  appliedAt := 3
  cleared := [.done]

/-- The Machine is on already, so what the refresh brings back is what was read. -/
theorem observed_power_stored_iff_unchanged :
    let before : Bmc.MachineStatus :=
      { power := some .on, conditions := [⟨.contactable, .true, some 0, ""⟩] }
    Shows (reconcileMachine ⟨true, 1, 0, 0⟩ (observedCluster before)
      poweredOn).cluster.machine.status (.ok "on") :=
  (observed_power_stored_iff ⟨true, 1, 0, 0⟩ _ poweredOn rfl rfl trivial).mpr
    fun _ => by decide

/-- The Machine was off, or is new. It is read as on, but the answer to the patch
that removes the annotation brings the old status back. -/
theorem observed_power_lost :
    let off : Bmc.MachineStatus :=
      { power := some .off, conditions := [⟨.contactable, .true, some 0, ""⟩] }
    let after := fun before =>
      reconcileMachine ⟨true, 1, 0, 0⟩ (observedCluster before) poweredOn
    (after off).result = .ok 0 ∧ (after off).cluster.machine.status.power = some .off ∧
      (after {}).result = .ok 0 ∧ (after {}).cluster.machine.status.power = none := by
  decide +kernel

end Tinkerbell.Rufio

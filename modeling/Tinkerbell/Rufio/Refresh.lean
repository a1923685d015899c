import Tinkerbell.Library.TransitionSystem
import Tinkerbell.Rufio.Machine

/-!
Owns: how often the inventory of a Machine is collected, over any sequence of
its reconciles.

A refresh is due when the time recorded with the inventory is older than the
interval and the jitter of the Machine. `AdvancesTimestamp` says of a reconcile
that its collection, if it makes one, moves the recorded time; under it a
successful collection is the last one before the interval has passed.
-/

namespace Tinkerbell.Rufio

open Api
open TransitionSystem

private theorem lt_truncateSecond (time : Time) : time < truncateSecond time + second := by
  have general : ∀ value : Int, value < value / 1000000000 * 1000000000 + 1000000000 := by
    omega
  exact general time

variable {earlier later : Time}

private theorem truncateSecond_mono (ordered : earlier ≤ later) :
    truncateSecond earlier ≤ truncateSecond later := by
  have general : ∀ first second : Int, first ≤ second →
      first / 1000000000 * 1000000000 ≤ second / 1000000000 * 1000000000 := by
    omega
  exact general earlier later ordered

private theorem lt_sub_of_lt_timeSub {interval : Duration} (bounded : minInt64 ≤ interval)
    (passed : interval < timeSub later earlier) :
    interval < later - earlier := by
  unfold timeSub at passed
  split at passed
  · exact absurd passed (Int.not_lt.mpr bounded)
  · split at passed
    · next beyond => exact Int.lt_trans passed beyond
    · exact passed

section Refresh

variable {Content : Type}

def recordedTime (hardware : InventoryHardware Content) : Option Time :=
  hardware.outOfBand.bind Attributes.lastUpdated

def linked (cluster : MachineCluster Content) : List (InventoryHardware Content) :=
  cluster.hardware.items.filter (linkedHardware cluster.machine)

variable {cluster : MachineCluster Content} {hardware : InventoryHardware Content}
  {replies : MachineReplies Content}

variable {attributes : Attributes Content} {existing : Option (Attributes Content)}
  {device : Option Content} {collectionMethod : String} {now : Time}

private theorem linked_modify (isLinked : linked cluster = [hardware]) :
    (cluster.hardware.modify hardware.key
        (fun current => { current with outOfBand := some attributes })
        (fun _ => rfl)).items.filter (linkedHardware cluster.machine) =
      [{ hardware with outOfBand := some attributes }] := by
  show (cluster.hardware.items.map _).filter _ = _
  rw [List.filter_map]
  have sameTest : linkedHardware cluster.machine ∘
      ObjectStore.changeAt InventoryHardware.key hardware.key
        (fun current => { current with outOfBand := some attributes }) =
      linkedHardware cluster.machine := by
    funext current
    show linkedHardware _ (ObjectStore.changeAt _ _ _ current) = _
    unfold ObjectStore.changeAt
    split <;> rfl
  rw [sameTest]
  show (linked cluster).map _ = _
  rw [isLinked]
  simp [ObjectStore.changeAt]

variable [DecidableEq Content] [Inhabited Content]

private theorem newAttributes_eq_none
    (unchanged : newAttributes existing device collectionMethod now = none) :
    ∃ content, device = some content ∧
      existing.map (fun old => (old.collectionMethod, old.content)) =
        some (collectionMethod, content) := by
  cases device with
  | none => cases unchanged
  | some content =>
    unfold newAttributes at unchanged
    dsimp only at unchanged
    split at unchanged
    · next same => exact ⟨content, rfl, same⟩
    · cases unchanged

private theorem newAttributes_dated
    (isNew : newAttributes existing device collectionMethod now = some attributes) :
    attributes.lastUpdated = some now := by
  unfold newAttributes at isNew
  split at isNew
  · cases isNew
    rfl
  · split at isNew
    · cases isNew
    · cases isNew
      rfl

/-- What a collection leaves of the Hardware: an error and nothing written, a
time written, or an inventory found unchanged. -/
theorem reconcileInventory_cases (cluster : MachineCluster Content)
    (hardware : InventoryHardware Content) (replies : MachineReplies Content) :
    ((reconcileInventory cluster hardware replies).1.hardware = cluster.hardware ∧
      (reconcileInventory cluster hardware replies).2.isSome = true) ∨
    (∃ attributes : Attributes Content,
      attributes.lastUpdated = storedTime replies.appliedAt ∧
      (reconcileInventory cluster hardware replies).1.hardware =
        cluster.hardware.modify hardware.key
          (fun current => { current with outOfBand := some attributes }) (fun _ => rfl)) ∨
    ∃ content, replies.inventory = .ok (some content) ∧
      hardware.outOfBand.map (fun old => (old.collectionMethod, old.content)) =
        some (replies.successfulProvider, content) := by
  unfold reconcileInventory
  split
  · exact Or.inl ⟨rfl, rfl⟩
  · next _ collected =>
    split
    · next unchanged =>
      obtain ⟨content, rfl, same⟩ := newAttributes_eq_none unchanged
      exact Or.inr (Or.inr ⟨content, collected, same⟩)
    · next attributes isNew =>
      unfold applyHardwareOutOfBand
      dsimp only
      by_cases effect : replies.applied.TookEffect
      · rw [if_pos effect]
        refine Or.inr (Or.inl ⟨{ attributes with
          lastUpdated := attributes.lastUpdated.bind storedTime }, ?_, rfl⟩)
        rw [newAttributes_dated isNew]
        rfl
      · rw [if_neg effect]
        refine Or.inl ⟨rfl, ?_⟩
        cases applied : replies.applied with
        | refused => rfl
        | done | lost =>
          rw [applied] at effect
          exact absurd trivial effect

/-- The Machine keeps its identity and its annotations. -/
structure SameMachine (before after : Bmc.Machine) : Prop where
  name : after.name = before.name
  «namespace» : after.namespace = before.namespace
  annotations : after.annotations = before.annotations

omit [DecidableEq Content] [Inhabited Content] in
theorem sameMachine_writeStatus {machine : Bmc.Machine} (same : SameMachine machine cluster.machine)
    (read memory : Bmc.Machine) (reply : Controller.WriteReply) :
    SameMachine machine (writeStatus cluster read memory reply).machine ∧
      (writeStatus cluster read memory reply).hardware = cluster.hardware := by
  unfold writeStatus
  split
  · exact ⟨⟨same.name, same.namespace, same.annotations⟩, rfl⟩
  · exact ⟨same, rfl⟩

private theorem collectInventory_unrequested {memory : Bmc.Machine}
    (unrequested : isRequested memory.annotations refreshInventoryAnnotation = false) :
    collectInventory cluster hardware memory replies =
      ⟨(reconcileInventory cluster hardware replies).1, memory,
        some ⟨replies.dueAt, replies.appliedAt,
          (reconcileInventory cluster hardware replies).2.isNone⟩⟩ := by
  unfold collectInventory
  split
  · next after err collected => rw [collected]; rfl
  · next _ collected =>
    rw [collected]
    unfold clearRefreshInventoryAnnotation
    simp [unrequested]

private theorem reconcileMachine_cases (config : InventoryConfig)
    (cluster : MachineCluster Content) (replies : MachineReplies Content)
    (unrequested : isRequested cluster.machine.annotations refreshInventoryAnnotation = false) :
    SameMachine cluster.machine (reconcileMachine config cluster replies).cluster.machine ∧
      ((reconcileMachine config cluster replies).collection = none ∧
        (reconcileMachine config cluster replies).cluster.hardware = cluster.hardware ∨
      ∃ hardware, Collects config cluster cluster.machine replies hardware ∧
        (reconcileMachine config cluster replies).collection =
          some ⟨replies.dueAt, replies.appliedAt,
            (reconcileInventory cluster hardware replies).2.isNone⟩ ∧
        (reconcileMachine config cluster replies).cluster.hardware =
          (reconcileInventory cluster hardware replies).1.hardware) := by
  have same : SameMachine cluster.machine cluster.machine := ⟨rfl, rfl, rfl⟩
  unfold reconcileMachine
  split
  · exact ⟨same, Or.inl ⟨rfl, rfl⟩⟩
  · split
    · exact ⟨same, Or.inl ⟨rfl, rfl⟩⟩
    · split
      · next err _ =>
        have written := sameMachine_writeStatus same cluster.machine
          { cluster.machine with
            status := { cluster.machine.status.setCondition replies.now .contactable
              .false err with power := some .unknown } } replies.statusPatched
        exact ⟨written.1, Or.inl ⟨rfl, written.2⟩⟩
      · have annotations := annotations_observePower replies.now replies.powerState
          cluster.machine
        by_cases collects : ∃ hardware, Collects config cluster
            (observePower replies.now replies.powerState cluster.machine) replies hardware
        · obtain ⟨hardware, collects⟩ := collects
          have unrequestedMemory : isRequested
              (observePower replies.now replies.powerState cluster.machine).annotations
              refreshInventoryAnnotation = false := by
            rw [annotations]
            exact unrequested
          have due := collects.due
          unfold dueForInventoryRefresh at due
          rw [annotations] at due
          have sameAfter : SameMachine cluster.machine
              (reconcileInventory cluster hardware replies).1.machine := by
            rw [machine_reconcileInventory]
            exact same
          unfold reportReachable
          dsimp only
          rw [reconcileInventoryIfDue_eq collects, collectInventory_unrequested unrequestedMemory]
          have written := sameMachine_writeStatus sameAfter cluster.machine
            (observePower replies.now replies.powerState cluster.machine)
            replies.statusPatched
          exact ⟨written.1, Or.inr ⟨hardware, ⟨collects.enabled, collects.listed,
            collects.linked, collects.allowed, due⟩, rfl, written.2⟩⟩
        · unfold reportReachable
          dsimp only
          rw [reconcileInventoryIfDue_idle (not_exists.mp collects)]
          have written := sameMachine_writeStatus same cluster.machine
            (observePower replies.now replies.powerState cluster.machine)
            replies.statusPatched
          exact ⟨written.1, Or.inl ⟨rfl, written.2⟩⟩

structure RefreshWorld (Content : Type) where
  cluster : MachineCluster Content
  clock : Time
  collections : List Collection := []

def refreshStep (config : InventoryConfig) (world : RefreshWorld Content)
    (replies : MachineReplies Content) : RefreshWorld Content :=
  let outcome := reconcileMachine config world.cluster replies
  { cluster := outcome.cluster
    clock := replies.appliedAt
    collections := world.collections ++ outcome.collection.toList }

/-- A condition on the only Hardware that refers to the Machine. -/
def OnlyLinked (condition : InventoryHardware Content → Prop) :
    List (InventoryHardware Content) → Prop
  | [hardware] => condition hardware
  | _ => True

instance (condition : InventoryHardware Content → Prop) [DecidablePred condition]
    (hardware : List (InventoryHardware Content)) : Decidable (OnlyLinked condition hardware) := by
  unfold OnlyLinked
  split <;> infer_instance

def Differs (hardware : InventoryHardware Content) (collectionMethod : String) :
    Except String (Option Content) → Prop
  | .ok (some content) =>
    hardware.outOfBand.map (fun old => (old.collectionMethod, old.content)) ≠
      some (collectionMethod, content)
  | _ => True

instance (hardware : InventoryHardware Content) (collectionMethod : String)
    (inventory : Except String (Option Content)) :
    Decidable (Differs hardware collectionMethod inventory) := by
  unfold Differs
  split <;> infer_instance

/-- A time is not in the second after the refresh is due, which the recorded
time, stored in whole seconds, does not resolve. -/
def OffTheSecond (config : InventoryConfig) (now : Time) : Option Time → Prop
  | some lastUpdated =>
    now ≤ lastUpdated + config.inventoryRefreshInterval + config.inventoryJitter ∨
      lastUpdated + config.inventoryRefreshInterval + config.inventoryJitter + second ≤ now
  | none => True

instance (config : InventoryConfig) (now : Time) (lastUpdated : Option Time) :
    Decidable (OffTheSecond config now lastUpdated) := by
  unfold OffTheSecond
  split <;> infer_instance

structure AdvancesTimestamp (config : InventoryConfig) (world : RefreshWorld Content)
    (replies : MachineReplies Content) : Prop where
  later : world.clock ≤ replies.dueAt
  inOrder : replies.dueAt ≤ replies.appliedAt
  dated : replies.appliedAt ≠ zeroTime
  differs : OnlyLinked (fun hardware =>
      dueForInventoryRefresh hardware world.cluster.machine config replies.dueAt = true →
        Differs hardware replies.successfulProvider replies.inventory)
    (linked world.cluster)
  offTheSecond : OnlyLinked (fun hardware =>
    OffTheSecond config replies.dueAt (recordedTime hardware)) (linked world.cluster)

instance (config : InventoryConfig) (world : RefreshWorld Content)
    (replies : MachineReplies Content) :
    Decidable (AdvancesTimestamp config world replies) :=
  decidable_of_iff
    (world.clock ≤ replies.dueAt ∧ replies.dueAt ≤ replies.appliedAt ∧
      replies.appliedAt ≠ zeroTime ∧
      OnlyLinked (fun hardware =>
          dueForInventoryRefresh hardware world.cluster.machine config replies.dueAt = true →
            Differs hardware replies.successfulProvider replies.inventory)
        (linked world.cluster) ∧
      OnlyLinked (fun hardware =>
        OffTheSecond config replies.dueAt (recordedTime hardware)) (linked world.cluster))
    ⟨fun ⟨later, inOrder, dated, differs, offTheSecond⟩ =>
        ⟨later, inOrder, dated, differs, offTheSecond⟩,
      fun ⟨later, inOrder, dated, differs, offTheSecond⟩ =>
        ⟨later, inOrder, dated, differs, offTheSecond⟩⟩

def RecordedSince (cluster : MachineCluster Content) (time : Time) : Prop :=
  ∃ hardware lastUpdated, linked cluster = [hardware] ∧
    recordedTime hardware = some lastUpdated ∧ truncateSecond time ≤ lastUpdated

def OnSchedule (config : InventoryConfig) (collections : List Collection) : Prop :=
  collections.Pairwise fun earlier later => earlier.succeeded = true →
    earlier.appliedAt + config.inventoryRefreshInterval + config.inventoryJitter ≤
      later.dueAt

structure KeepsSchedule (config : InventoryConfig) (world : RefreshWorld Content) :
    Prop where
  unrequested :
    isRequested world.cluster.machine.annotations refreshInventoryAnnotation = false
  past : ∀ collection ∈ world.collections, collection.appliedAt ≤ world.clock
  recorded : ∀ collection ∈ world.collections, collection.succeeded = true →
    RecordedSince world.cluster collection.appliedAt
  onSchedule : OnSchedule config world.collections

omit [DecidableEq Content] [Inhabited Content] in
theorem linked_eq {before after : MachineCluster Content}
    (same : SameMachine before.machine after.machine)
    (sameHardware : after.hardware = before.hardware) : linked after = linked before := by
  unfold linked linkedHardware
  rw [sameHardware, same.name, same.namespace]

omit [DecidableEq Content] [Inhabited Content] in
private theorem due_after_recorded {config : InventoryConfig} {time : Time}
    (low : minInt64 ≤ config.inventoryRefreshInterval + config.inventoryJitter)
    (high : config.inventoryRefreshInterval + config.inventoryJitter ≤ maxInt64)
    (unrequested : isRequested cluster.machine.annotations refreshInventoryAnnotation = false)
    (collects : Collects config cluster cluster.machine replies hardware)
    (offTheSecond : OffTheSecond config replies.dueAt (recordedTime hardware))
    (recorded : RecordedSince cluster time) :
    time + config.inventoryRefreshInterval + config.inventoryJitter ≤ replies.dueAt := by
  obtain ⟨other, lastUpdated, isLinked, isRecorded, since⟩ := recorded
  have isHardware : other = hardware := by
    have same := isLinked.symm.trans collects.linked
    exact List.singleton_inj.mp same
  subst isHardware
  have due := collects.due
  unfold dueForInventoryRefresh at due
  rw [if_neg (by simp [unrequested])] at due
  change other.outOfBand.bind Attributes.lastUpdated = some lastUpdated at isRecorded
  rw [isRecorded] at due
  have passed := lt_sub_of_lt_timeSub low (by
    rw [wrapInt64_of_fits low high] at due
    simpa using due)
  unfold OffTheSecond recordedTime at offTheSecond
  rw [isRecorded] at offTheSecond
  have bound := lt_truncateSecond time
  have general : ∀ interval jitter whole recordedAt at' dueAt : Int,
      interval + jitter < dueAt - recordedAt →
      dueAt ≤ recordedAt + interval + jitter ∨
        recordedAt + interval + jitter + 1000000000 ≤ dueAt →
      whole ≤ recordedAt → at' < whole + 1000000000 → at' + interval + jitter ≤ dueAt := by
    omega
  exact general _ _ _ _ _ _ passed offTheSecond since bound

private theorem recordedSince_collected {config : InventoryConfig} {world : RefreshWorld Content}
    {after : MachineCluster Content} (advances : AdvancesTimestamp config world replies)
    (collects : Collects config world.cluster world.cluster.machine replies hardware)
    (same : SameMachine world.cluster.machine after.machine)
    (isAfter : after.hardware = (reconcileInventory world.cluster hardware replies).1.hardware) :
    (∀ time, time ≤ world.clock → RecordedSince world.cluster time →
      RecordedSince after time) ∧
    ((reconcileInventory world.cluster hardware replies).2 = none →
      RecordedSince after replies.appliedAt) := by
  have isLinked : linked world.cluster = [hardware] := collects.linked
  have differs := advances.differs
  rw [isLinked] at differs
  rcases reconcileInventory_cases world.cluster hardware replies with
    ⟨unchanged, failed⟩ | ⟨attributes, dated, written⟩ | ⟨content, reported, stored⟩
  · have sameLinked := linked_eq same (isAfter.trans unchanged)
    refine ⟨?_, ?_⟩
    · rintro time _ ⟨other, lastUpdated, isOther, isRecorded, since⟩
      exact ⟨other, lastUpdated, sameLinked.trans isOther, isRecorded, since⟩
    · intro succeeded
      rw [succeeded] at failed
      cases failed
  · have afterLinked : linked after = [{ hardware with outOfBand := some attributes }] := by
      unfold linked
      rw [isAfter, written, ← linked_modify isLinked]
      unfold linkedHardware
      rw [same.name, same.namespace]
    have recordedAt : ∀ time, time ≤ replies.appliedAt → RecordedSince after time := by
      intro time earlier
      refine ⟨_, truncateSecond replies.appliedAt, afterLinked, ?_, truncateSecond_mono earlier⟩
      show attributes.lastUpdated = _
      rw [dated, storedTime, if_neg advances.dated]
    refine ⟨?_, fun _ => recordedAt _ (Int.le_refl _)⟩
    intro time earlier _
    exact recordedAt time
      (Int.le_trans earlier (Int.le_trans advances.later advances.inOrder))
  · have unchanged := differs collects.due
    rw [reported] at unchanged
    exact absurd stored unchanged

section Schedule

variable {config : InventoryConfig} {world after : RefreshWorld Content}
  (keeps : KeepsSchedule config world) (advances : world.clock ≤ after.clock)
  (unrequested :
    isRequested after.cluster.machine.annotations refreshInventoryAnnotation = false)

include keeps advances unrequested

omit [DecidableEq Content] [Inhabited Content] in
theorem KeepsSchedule.idle (sameLinked : linked after.cluster = linked world.cluster)
    (sameCollections : after.collections = world.collections) :
    KeepsSchedule config after := by
  refine ⟨unrequested, ?_, ?_, ?_⟩
  · rw [sameCollections]
    exact fun collection member => Int.le_trans (keeps.past collection member) advances
  · rw [sameCollections]
    intro collection member succeeded
    obtain ⟨other, lastUpdated, isOther, isRecorded, since⟩ :=
      keeps.recorded collection member succeeded
    exact ⟨other, lastUpdated, sameLinked.trans isOther, isRecorded, since⟩
  · rw [sameCollections]
    exact keeps.onSchedule

omit [DecidableEq Content] [Inhabited Content] in
theorem KeepsSchedule.collect {collection : Collection}
    (grown : after.collections = world.collections ++ [collection])
    (applied : collection.appliedAt ≤ after.clock)
    (keepsRecorded : ∀ time, time ≤ world.clock → RecordedSince world.cluster time →
      RecordedSince after.cluster time)
    (recordsOwn : collection.succeeded = true →
      RecordedSince after.cluster collection.appliedAt)
    (isDue : ∀ time, RecordedSince world.cluster time →
      time + config.inventoryRefreshInterval + config.inventoryJitter ≤ collection.dueAt) :
    KeepsSchedule config after := by
  refine ⟨unrequested, ?_, ?_, ?_⟩
  · rw [grown]
    intro earlier member
    rcases List.mem_append.mp member with old | new
    · exact Int.le_trans (keeps.past earlier old) advances
    · rw [List.mem_singleton.mp new]
      exact applied
  · rw [grown]
    intro earlier member succeeded
    rcases List.mem_append.mp member with old | new
    · exact keepsRecorded earlier.appliedAt (keeps.past earlier old)
        (keeps.recorded earlier old succeeded)
    · rw [List.mem_singleton.mp new] at succeeded ⊢
      exact recordsOwn succeeded
  · unfold OnSchedule
    rw [grown, List.pairwise_append]
    refine ⟨keeps.onSchedule, List.pairwise_singleton _ _, ?_⟩
    intro earlier isEarlier later isLater succeeded
    rw [List.mem_singleton.mp isLater]
    exact isDue earlier.appliedAt (keeps.recorded earlier isEarlier succeeded)

end Schedule

theorem KeepsSchedule.step {config : InventoryConfig} {world : RefreshWorld Content}
    (low : minInt64 ≤ config.inventoryRefreshInterval + config.inventoryJitter)
    (high : config.inventoryRefreshInterval + config.inventoryJitter ≤ maxInt64)
    (keeps : KeepsSchedule config world) (advances : AdvancesTimestamp config world replies) :
    KeepsSchedule config (refreshStep config world replies) := by
  obtain ⟨same, outcome⟩ := reconcileMachine_cases config world.cluster replies
    keeps.unrequested
  have clockAdvances : world.clock ≤ replies.appliedAt :=
    Int.le_trans advances.later advances.inOrder
  have unrequested : isRequested
      (reconcileMachine config world.cluster replies).cluster.machine.annotations
      refreshInventoryAnnotation = false := by
    rw [same.annotations]
    exact keeps.unrequested
  rcases outcome with ⟨none, unchanged⟩ | ⟨hardware, collects, collected, isAfter⟩
  · refine keeps.idle clockAdvances unrequested (linked_eq same unchanged) ?_
    show world.collections ++ Option.toList _ = _
    rw [none]
    exact List.append_nil _
  · have isLinked : linked world.cluster = [hardware] := collects.linked
    have offTheSecond := advances.offTheSecond
    rw [isLinked] at offTheSecond
    obtain ⟨keepsRecorded, recordsOwn⟩ := recordedSince_collected advances collects same
      isAfter
    have grown : (refreshStep config world replies).collections =
        world.collections ++ [⟨replies.dueAt, replies.appliedAt,
          (reconcileInventory world.cluster hardware replies).2.isNone⟩] := by
      show world.collections ++ Option.toList _ = _
      rw [collected]
      rfl
    refine keeps.collect clockAdvances unrequested grown (Int.le_refl _) keepsRecorded ?_ ?_
    · intro succeeded
      exact recordsOwn (Option.isNone_iff_eq_none.mp succeeded)
    · intro time recorded
      exact due_after_recorded low high keeps.unrequested collects offTheSecond recorded

/-- In every sequence of reconciles of a Machine without a refresh request, in
which each collection moves the recorded time, no collection comes before the
interval and the jitter have passed since one that succeeded. -/
theorem inventory_once_per_interval (config : InventoryConfig)
    (cluster : MachineCluster Content) (clock : Time)
    (reconciles : List (MachineReplies Content))
    (low : minInt64 ≤ config.inventoryRefreshInterval + config.inventoryJitter)
    (high : config.inventoryRefreshInterval + config.inventoryJitter ≤ maxInt64)
    (unrequested : isRequested cluster.machine.annotations refreshInventoryAnnotation =
      false)
    (advances : Meets (refreshStep config) (AdvancesTimestamp config) ⟨cluster, clock, []⟩
      reconciles) :
    OnSchedule config (run (refreshStep config) ⟨cluster, clock, []⟩
      reconciles).collections := by
  have start : KeepsSchedule config (⟨cluster, clock, []⟩ : RefreshWorld Content) :=
    ⟨unrequested, by simp, by simp, List.Pairwise.nil⟩
  have keeps : KeepsSchedule config (run (refreshStep config) ⟨cluster, clock, []⟩
      reconciles) := by
    apply run_invariant _ start advances
    intro world replies kept moves
    exact kept.step low high moves
  exact keeps.onSchedule

end Refresh

instance (config : InventoryConfig) (collections : List Collection) :
    Decidable (OnSchedule config collections) :=
  inferInstanceAs (Decidable (List.Pairwise _ collections))

/-! A Machine whose inventory is refreshed every hour, with a minute of jitter. -/

def hourly : InventoryConfig where
  inventoryRefreshInterval := 3600 * second
  inventoryJitter := 60 * second

def inventoryCluster : MachineCluster String where
  machine := { name := "bmc", «namespace» := "metal" }
  hardware := ⟨[{ name := "server", «namespace» := "metal", bmcRef := some "bmc" }], by decide⟩

def reconcileAt (seconds : Int) (inventory : String) : MachineReplies String where
  now := seconds * second
  powerState := .ok "on"
  dueAt := seconds * second
  inventory := .ok (some inventory)
  appliedAt := seconds * second

theorem inventory_once_per_interval_hourly :
    OnSchedule hourly (run (refreshStep hourly) ⟨inventoryCluster, 0, []⟩
      [reconcileAt 10 "one disk", reconcileAt 1000 "one disk",
        reconcileAt 3672 "two disks"]).collections := by
  apply inventory_once_per_interval hourly inventoryCluster 0
  · decide
  · decide
  · decide
  · decide +kernel

/-- The second collection finds the inventory unchanged and does not record its
time, so the next reconcile collects again. -/
theorem unchanged_inventory_collected_again :
    (run (refreshStep hourly) ⟨inventoryCluster, 0, []⟩
        [reconcileAt 10 "one disk", reconcileAt 4000 "one disk",
          reconcileAt 4060 "one disk"]).collections =
      [⟨10 * second, 10 * second, true⟩, ⟨4000 * second, 4000 * second, true⟩,
        ⟨4060 * second, 4060 * second, true⟩] ∧
    ¬OnSchedule hourly (run (refreshStep hourly) ⟨inventoryCluster, 0, []⟩
        [reconcileAt 10 "one disk", reconcileAt 4000 "one disk",
          reconcileAt 4060 "one disk"]).collections := by
  decide +kernel

end Tinkerbell.Rufio

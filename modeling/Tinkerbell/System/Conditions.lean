import Tinkerbell.Controller.Conditions
import Tinkerbell.System.Netboot

/-!
Owns: what the netboot conditions of a workflow say in every run of the system,
from any state the workflow is in when nothing is on record yet.

They are true to the record as long as the reconcile in POST that takes the
permission back can read its Hardware. When it cannot, it records the failure
under the condition for giving the permission, which is on record.
-/

namespace Tinkerbell.System

open Api Server Controller TransitionSystem

def ReadsBack (world : World) : Label → Prop
  | .beginReconcile replies =>
    world.status.state = .post → ReadsHardware replies world.stored.value
  | _ => True

instance (world : World) (label : Label) : Decidable (ReadsBack world label) := by
  unfold ReadsBack
  split <;> infer_instance

def Unrecorded (status : WorkflowStatus) : Prop :=
  ∀ allowPXE, status.condition (toggleCondition allowPXE) = none ∧
    isToggled allowPXE status.bootOptions.allowNetboot = false

theorem Unrecorded.told {status : WorkflowStatus} (unrecorded : Unrecorded status)
    (allowPXE : Bool) : Told status allowPXE := by
  rw [Told, WorkflowStatus.hasCondition, (unrecorded allowPXE).1, (unrecorded allowPXE).2]

/-- The stored status is true to its record, and so is the one that an outstanding
reconcile wants; its patch finds the controller fields it read. -/
structure Tells (world : World) : Prop where
  told : ∀ allowPXE, Told world.status allowPXE
  same : ∀ reconciled, world.controller = some reconciled →
    SameControllerFields reconciled.original world.status
  wanted : ∀ reconciled, world.controller = some reconciled →
    ∀ allowPXE, Told reconciled.updated allowPXE

theorem sameNetboot_of_sameControllerFields {first second : WorkflowStatus}
    (same : SameControllerFields first second) : SameNetboot second first := by
  have conditions := congrArg WorkflowStatus.conditions same
  have bootOptions := congrArg WorkflowStatus.bootOptions same
  exact .of_fields (congrArg BootOptionsStatus.allowNetboot bootOptions) conditions

theorem sameNetboot_applyPatch {world : World} {reconciled : Reconciled}
    (same : SameControllerFields reconciled.original world.status) (reply : WriteReply) :
    (world.applyPatch reconciled reply).status = world.status ∨
      SameNetboot reconciled.updated (world.applyPatch reconciled reply).status := by
  rw [status_applyPatch]
  by_cases tookEffect : reply.TookEffect
  · have patched := @patched_mergePatchStatus reconciled.updated world.stored.value.name reply
      world.status reconciled.original tookEffect same
    exact Or.inr (.of_fields patched.allowNetboot patched.conditions)
  · exact Or.inl (mergePatchStatus_of_refused tookEffect _ _ _)

theorem inductive_tells : Inductive ReadsBack Tells where
  prepare world label agentID agent holds _ _ := { holds with }
  accept world agentID call written holding holds _ inFlight attempted := by
    have fields := (attempts_of_ok attempted).written_eq.2
    have status : (world.accept agentID (world.stored.put written) holding).status =
        written.status := by simp [World.status]
    refine ⟨?_, ?_, holds.wanted⟩
    · intro allowPXE
      rw [status]
      exact (sameNetboot_of_sameControllerFields fields).told (holds.told allowPXE)
    · intro reconciled pending
      rw [status]
      exact (holds.same reconciled pending).of_common fields
  beginReconcile world replies holds meets := by
    refine ⟨holds.told, ?_, ?_⟩
    · intro reconciled pending
      cases pending
      rw [reconcile_original]
      rfl
    · intro reconciled pending
      cases pending
      exact told_reconcile replies world.cluster meets holds.told
  patch world reply reconciled holds _ pending := by
    refine ⟨?_, ?_, ?_⟩
    · intro allowPXE
      rcases sameNetboot_applyPatch (holds.same reconciled pending) reply with same | written
      · rw [same]
        exact holds.told allowPXE
      · exact written.told (holds.wanted reconciled pending allowPXE)
    · intro other impossible
      cases impossible
    · intro other impossible
      cases impossible
  job world event holds _ := { holds with }

theorem tells_start {wf : Workflow} (unrecorded : Unrecorded wf.status) (cluster : Cluster) :
    Tells (World.start wf cluster) where
  told := unrecorded.told
  same := by
    intro reconciled pending
    cases pending
  wanted := by
    intro reconciled pending
    cases pending

theorem condition_reconcileAtomically {world : World}
    (isPost : world.status.state = .post) {replies : Replies}
    (reads : ReadsHardware replies world.stored.value) (reply : WriteReply) :
    (reconcileAtomically world replies reply).status.condition .toggleAllowNetbootTrue =
      world.status.condition .toggleAllowNetbootTrue := by
  have kept := condition_reconcile_post replies world.cluster isPost reads
  have same : SameControllerFields
      (reconcile replies world.cluster world.stored.value).original
      (world.beginReconcile replies).status := by
    rw [reconcile_original]
    rfl
  rcases sameNetboot_applyPatch same reply with unchanged | written
  · exact congrArg (fun status => status.condition .toggleAllowNetbootTrue) unchanged
  · exact (written.condition true).trans kept

/-- In every run in which each reconcile in POST reads the Hardware it takes the
permission back from: a netboot condition is true exactly when its permission is on
record, and taking the permission back never alters the condition for giving it. -/
theorem netboot_conditions_tell (wf : Workflow) (cluster : Cluster) (labels : List Label)
    (unrecorded : Unrecorded wf.status)
    (reads : Meets step ReadsBack (World.start wf cluster) labels) :
    let world := run step (World.start wf cluster) labels
    (world.status.hasCondition .toggleAllowNetbootTrue .true = true ↔
        world.status.bootOptions.allowNetboot.toggledTrue = true) ∧
      (world.status.hasCondition .toggleAllowNetbootFalse .true = true ↔
        world.status.bootOptions.allowNetboot.toggledFalse = true) ∧
      (world.status.state = .post → ∀ replies reply,
        ReadsBack world (.beginReconcile replies) →
          (reconcileAtomically world replies reply).status.condition
              .toggleAllowNetbootTrue =
            world.status.condition .toggleAllowNetbootTrue) := by
  intro world
  have holds : Tells world := inductive_tells.run (coherentReads_start wf cluster)
    (tells_start unrecorded cluster) reads
  refine ⟨?_, ?_, ?_⟩
  · exact Bool.coe_iff_coe.mpr (holds.told true)
  · exact Bool.coe_iff_coe.mpr (holds.told false)
  · intro isPost replies reply readsBack
    exact condition_reconcileAtomically isPost (readsBack isPost) reply

def failingUpdates : Replies :=
  { sampleReplies second "" with attempt := fun _ => ⟨.ok sampleHardware, .failed "refused"⟩ }

def takingBack (replies : Replies) : List Label :=
  reconcileAlone 0 "" ++ reconcileAlone 1 "" ++ runAction "agent-a" ++
    [.beginReconcile replies, .patch .done]

theorem netboot_conditions_tell_of_failed_update :
    let world := run step (World.start togglingWorkflow emptyCluster)
      (takingBack failingUpdates)
    world.status.state = .failed ∧
      world.status.bootOptions.allowNetboot = ⟨true, false⟩ ∧
      (world.status.hasCondition .toggleAllowNetbootTrue .true = true ↔
        world.status.bootOptions.allowNetboot.toggledTrue = true) ∧
      (world.status.hasCondition .toggleAllowNetbootFalse .true = true ↔
        world.status.bootOptions.allowNetboot.toggledFalse = true) := by
  have unrecorded : Unrecorded togglingWorkflow.status := by
    intro allowPXE
    cases allowPXE with
    | false | true => exact ⟨rfl, rfl⟩
  have tells := netboot_conditions_tell togglingWorkflow emptyCluster
    (takingBack failingUpdates) unrecorded (by decide)
  exact ⟨by decide, by decide, tells.1, tells.2.1⟩

def failingRead : Replies :=
  { sampleReplies second "" with toggleHardware := .error "unavailable" }

/-- The permission was given and is on record; a failed read while taking it back
turns the condition for giving it false. -/
theorem failed_read_retracts :
    let world := run step (World.start togglingWorkflow emptyCluster)
      (takingBack failingRead)
    world.status.bootOptions.allowNetboot.toggledTrue = true ∧
      world.status.hasCondition .toggleAllowNetbootTrue .true = false := by
  decide

end Tinkerbell.System

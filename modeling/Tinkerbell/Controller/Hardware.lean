import Tinkerbell.Controller.Client

/-!
Owns: reading the Hardware of a workflow and toggling `allowPXE` on all its
interfaces, with the retry on update conflicts.
-/

variable {attempts : Nat → UpdateAttempt} {accepted : Option Hardware} {allowPXE : Bool}

namespace Tinkerbell.Controller

open Api

def hardwareFrom (wf : Workflow) (read : Except String Hardware) :
    Except String Hardware :=
  match read with
  | .ok hardware => .ok hardware
  | .error err => .error ("hardware not found: name=" ++ wf.spec.hardwareRef ++
      "; namespace=" ++ wf.namespace ++ ", error: " ++ err)

def setInterfacePXE (allowPXE : Bool) (iface : Interface) : Interface :=
  match iface.netboot with
  | some netboot => { iface with netboot := some { netboot with allowPXE := some allowPXE } }
  | none => { iface with netboot := some { allowPXE := some allowPXE } }

def setHardwarePXE (allowPXE : Bool) (hardware : Hardware) : Hardware :=
  { hardware with spec := { hardware.spec with
    interfaces := hardware.spec.interfaces.map (setInterfacePXE allowPXE) } }

/-- `allowPXE` has the given value on every interface. -/
def AllowsPXE (allowPXE : Bool) (hardware : Hardware) : Prop :=
  ∀ iface ∈ hardware.spec.interfaces,
    ∃ netboot, iface.netboot = some netboot ∧ netboot.allowPXE = some allowPXE

def heldOrRead (wf : Workflow) (held : Option Hardware)
    (read : Except String Hardware) : Except String Hardware :=
  match held with
  | some hardware => .ok hardware
  | none => hardwareFrom wf read

/-- The loop of `setAllowPXE` with `remaining` attempts left: the accepted
object, if any, and the error returned. -/
def setAllowPXELoop (wf : Workflow) (attempts : Nat → UpdateAttempt)
    (allowPXE : Bool) : Nat → Nat → Option Hardware →
      Option Hardware × Option String
  | 0, _, _ => (none, none)
  | remaining + 1, attempt, held =>
    match heldOrRead wf held (attempts attempt).read with
    | .error err => (none, some err)
    | .ok hardware =>
      let updated := setHardwarePXE allowPXE hardware
      match (attempts attempt).update with
      | .accepted => (some updated, none)
      | .conflict =>
        if remaining = 0 then
          (none, some ("error updating allow pxe after " ++ toString attempt ++
            " retries: conflict"))
        -- The object changed under the update: read it again.
        else setAllowPXELoop wf attempts allowPXE remaining (attempt + 1) none
      | .failed err => (none, some ("error updating allow pxe: " ++ err))

def maxRetries : Nat := 4

def setAllowPXE (wf : Workflow) (attempts : Nat → UpdateAttempt)
    (hardware : Option Hardware) (allowPXE : Bool) :
    Option Hardware × Option String :=
  setAllowPXELoop wf attempts allowPXE maxRetries 1 hardware

def isToggled (allowPXE : Bool) (status : AllowNetbootStatus) : Bool :=
  if allowPXE then status.toggledTrue else status.toggledFalse

def recordToggle (allowPXE : Bool) (status : AllowNetbootStatus) :
    AllowNetbootStatus :=
  if allowPXE then { status with toggledTrue := true }
  else { status with toggledFalse := true }

def toggleCondition (allowPXE : Bool) : WorkflowConditionType :=
  if allowPXE then .toggleAllowNetbootTrue else .toggleAllowNetbootFalse

def boolText (value : Bool) : String := if value then "true" else "false"

/-- `toggleHardware`: the state and the error returned. A failed read is
recorded under the condition for `true` whichever value is wanted. -/
def toggleHardware (replies : Replies) (state : State) (allowPXE : Bool) :
    State × Option String :=
  match hardwareFrom state.workflow replies.toggleHardware with
  | .error err =>
    (state.setConditionIfDifferent
      (conditionAt replies.now .toggleAllowNetbootTrue .false reasonError
        ("error getting hardware: " ++ err)), some err)
  | .ok hardware =>
    if isToggled allowPXE state.status.bootOptions.allowNetboot then
      (state, none)
    else
      match setAllowPXE state.workflow replies.attempt (some hardware) allowPXE with
      | (_, some err) =>
        (state.setConditionIfDifferent
          (conditionAt replies.now (toggleCondition allowPXE) .false reasonError
            ("error setting allowPXE to " ++ boolText allowPXE ++ ": " ++ err)),
          some err)
      | (accepted, none) =>
        let status := { state.status with
          bootOptions := { state.status.bootOptions with
            allowNetboot := recordToggle allowPXE
              state.status.bootOptions.allowNetboot } }
        let status := status.setCondition
          (conditionAt replies.now (toggleCondition allowPXE) .true "Complete"
            ("set allowPXE to " ++ boolText allowPXE))
        let state := match accepted with
          | some updated => state.log (.hardwareUpdated updated)
          | none => state
        (state.setStatus status, none)

theorem allowsPXE_setHardwarePXE (allowPXE : Bool) (hardware : Hardware) :
    AllowsPXE allowPXE (setHardwarePXE allowPXE hardware) := by
  intro iface member
  simp only [setHardwarePXE, List.mem_map] at member
  obtain ⟨_, _, rfl⟩ := member
  unfold setInterfacePXE
  split <;> exact ⟨_, rfl, rfl⟩

/-- With an attempt left, the loop returns no error only after an accepted
update of an object with `allowPXE` set on every interface. -/
theorem setAllowPXELoop_no_error {wf : Workflow} {remaining attempt : Nat} {held : Option Hardware}
    (returned : setAllowPXELoop wf attempts allowPXE (remaining + 1) attempt held =
      (accepted, none)) :
    ∃ updated, accepted = some updated ∧ AllowsPXE allowPXE updated := by
  induction remaining generalizing attempt held with
  | zero =>
    rw [setAllowPXELoop] at returned
    split at returned
    · cases returned
    · split at returned
      · cases returned
        exact ⟨_, rfl, allowsPXE_setHardwarePXE allowPXE _⟩
      · cases returned
      · cases returned
  | succ _ ih =>
    rw [setAllowPXELoop] at returned
    split at returned
    · cases returned
    · split at returned
      · cases returned
        exact ⟨_, rfl, allowsPXE_setHardwarePXE allowPXE _⟩
      · exact ih returned
      · cases returned

theorem setAllowPXE_no_error {wf : Workflow}
    {hardware : Option Hardware}
    (returned : setAllowPXE wf attempts hardware allowPXE = (accepted, none)) :
    ∃ updated, accepted = some updated ∧ AllowsPXE allowPXE updated :=
  setAllowPXELoop_no_error returned

end Tinkerbell.Controller

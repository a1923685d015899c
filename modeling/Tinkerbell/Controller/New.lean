import Tinkerbell.Controller.Client

/-!
Owns: how a new workflow gets its status: the Template and Hardware are read,
the rendered definition is validated and converted, and the first state chosen.

Rendering and YAML decoding are third-party code; `Replies.decoded` is their
result on the template at hand, and `Replies.referenceError` what the Hardware's
references add to the text of a rendering error.
-/

namespace Tinkerbell.Controller

open Api

def renderTemplateHardware (replies : Replies) : Except String Template.Workflow :=
  match replies.decoded with
  | .error err => .error err
  | .ok wf =>
    match Template.validate replies.imageError wf with
    | some err => .error ("validating workflow template: " ++ err)
    | none =>
      if wf.tasks.any fun task => task.workerAddr = "" then
        .error ("failed to render template, empty hardware address (" ++
          replies.hardwareData ++ ")")
      else .ok wf

def renderingFailed (replies : Replies) (status : WorkflowStatus)
    (message : String) : WorkflowStatus :=
  { status with templateRendering := .failed }.setConditionIfDifferent
    (conditionAt replies.now .templateRenderedSuccess .false reasonError message)

def joinError (referenceError : Option String) (err : String) : String :=
  match referenceError with
  | none => err
  | some first => first ++ "\n" ++ err

def renderedStatus (replies : Replies) (wf : Template.Workflow) : WorkflowStatus :=
  { Template.yamlToStatus replies.ids wf with
    templateRendering := .successful }.setCondition
      (conditionAt replies.now .templateRenderedSuccess .true "Complete"
        "template rendered successfully")

def processRendered (replies : Replies) (stored : Workflow) :
    WorkflowStatus × Option String :=
  match renderTemplateHardware replies with
  | .error err =>
    (renderingFailed replies stored.status
      ("error rendering template: " ++ joinError replies.referenceError err),
      some err)
  | .ok wf => (renderedStatus replies wf, none)

/-- `processWorkflow`: the new status and the error returned. A Hardware that
is not found only matters to a workflow that names one. -/
def processWorkflow (replies : Replies) (stored : Workflow) :
    WorkflowStatus × Option String :=
  match replies.template with
  | .error (.notFound _) =>
    (renderingFailed replies stored.status "template not found",
      some ("no template found: name=" ++ stored.spec.templateRef ++
        "; namespace=" ++ stored.namespace))
  | .error (.other err) => (renderingFailed replies stored.status err, some err)
  | .ok _ =>
    match replies.templateHardware with
    | .error (.other err) =>
      (renderingFailed replies stored.status ("error getting hardware: " ++ err),
        some err)
    | .error (.notFound err) =>
      if stored.spec.hardwareRef ≠ "" then
        (renderingFailed replies stored.status ("hardware not found: " ++ err),
          some ("hardware not found: name=" ++ stored.spec.hardwareRef ++
            "; namespace=" ++ stored.namespace))
      else processRendered replies stored
    | .ok _ => processRendered replies stored

def processNewWorkflow (replies : Replies) (stored : Workflow) :
    WorkflowStatus × Result × Option String :=
  match processWorkflow replies stored with
  | (status, some err) => (status, {}, some err)
  | (status, none) =>
    if stored.spec.bootOptions.toggleAllowNetboot ∨
        stored.spec.bootOptions.bootMode ≠ .unset then
      ({ status with state := .preparing }, { requeue := true }, none)
    else ({ status with state := .pending }, {}, none)

inductive Processes (replies : Replies) (stored : Workflow) :
    WorkflowStatus → Option String → Prop
  | failed (message err : String) :
      Processes replies stored (renderingFailed replies stored.status message) (some err)
  | rendered {wf : Template.Workflow} (accepted : renderTemplateHardware replies = .ok wf) :
      Processes replies stored (renderedStatus replies wf) none

theorem processes_processWorkflow (replies : Replies) (stored : Workflow) :
    Processes replies stored (processWorkflow replies stored).1
      (processWorkflow replies stored).2 := by
  have rendered : Processes replies stored (processRendered replies stored).1
      (processRendered replies stored).2 := by
    unfold processRendered
    split
    · exact .failed _ _
    · next accepted => exact .rendered accepted
  unfold processWorkflow
  split
  · exact .failed _ _
  · exact .failed _ _
  · split
    · exact .failed _ _
    · split
      · exact .failed _ _
      · exact rendered
    · exact rendered

theorem setConditionIfDifferent_eq (status : WorkflowStatus)
    (condition : WorkflowCondition) :
    status.setConditionIfDifferent condition = { status with
      conditions := (status.setConditionIfDifferent condition).conditions } := by
  unfold WorkflowStatus.setConditionIfDifferent
  split
  · split <;> rfl
  · rfl

theorem renderingFailed_eq (replies : Replies) (status : WorkflowStatus)
    (message : String) :
    renderingFailed replies status message = { status with
      templateRendering := .failed
      conditions := (renderingFailed replies status message).conditions } :=
  setConditionIfDifferent_eq _ _

end Tinkerbell.Controller

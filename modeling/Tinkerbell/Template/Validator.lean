import Tinkerbell.Library.KeyedMap

/-!
Owns: the workflow definition a rendered template decodes to, and the checks it
has to pass before it is converted.

The image reference parser is a third-party package; `imageError` stands for
it and gives the parser's error text, or `none` for a reference it accepts.
-/

namespace Tinkerbell.Template

structure ActionNamespaces where
  (network pid : String := "")
deriving DecidableEq

structure Action where
  (name image : String)
  timeout : Int := 0
  (command onTimeout onFailure volumes : List String := [])
  environment : KeyedMap String String := KeyedMap.empty
  pid : String := ""
  namespaces : ActionNamespaces := {}
deriving DecidableEq

structure Task where
  (name workerAddr : String)
  actions : List Action
  volumes : List String := []
  environment : KeyedMap String String := KeyedMap.empty
deriving DecidableEq

structure Workflow where
  version : String := ""
  name : String
  id : String := ""
  globalTimeout : Int := 0
  tasks : List Task
deriving DecidableEq

def hasValidLength (name : String) : Bool :=
  0 < name.utf8ByteSize && name.utf8ByteSize < 200

def errInvalidLength (name : String) : String :=
  "name cannot be empty or have more than 200 characters: " ++ name

def validateActions (imageError : String → Option String) :
    List String → List Action → Option String
  | _, [] => none
  | seen, action :: rest =>
    if hasValidLength action.name = false then
      some (errInvalidLength action.name)
    else
      match imageError action.image with
      | some err =>
        some ("invalid action image (" ++ action.image ++ "): " ++ err)
      | none =>
        if action.name ∈ seen then
          some ("two actions in a task cannot have same name: " ++ action.name)
        else validateActions imageError (action.name :: seen) rest

def validateTasks (imageError : String → Option String) :
    List String → List Task → Option String
  | _, [] => none
  | seen, task :: rest =>
    if hasValidLength task.name = false then
      some (errInvalidLength task.name)
    else if task.name ∈ seen then
      some ("two tasks in a template cannot have same name (" ++ task.name ++ ")")
    else
      match validateActions imageError [] task.actions with
      | some err => some err
      | none => validateTasks imageError (task.name :: seen) rest

def validate (imageError : String → Option String) (wf : Workflow) :
    Option String :=
  if hasValidLength wf.name = false then
    some (errInvalidLength wf.name)
  else if wf.tasks = [] then
    some "template must have at least one task defined"
  else validateTasks imageError [] wf.tasks

end Tinkerbell.Template

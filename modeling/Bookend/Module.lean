import Bookend.Registry.Run

namespace Bookend

/-- A module's view of a registry: what it registers bears its name and is remembered. -/
structure Scope where
  module : String
  registry : Registry
  handles : List Handle
  deriving DecidableEq, Repr

namespace Scope

def enter (module : String) (r : Registry) : Scope := ⟨module, r, []⟩

def register (s : Scope) (spec : Spec) : Turn Scope (Except Error Handle) :=
  let t := s.registry.register (spec.ofModule s.module)
  match t.answer with
  | .error e => ⟨.error e, { s with registry := t.state }, t.effects⟩
  | .ok h => ⟨.ok h, { s with registry := t.state, handles := s.handles ++ [h] }, t.effects⟩

def onStartup (s : Scope) (name : String) (c : Callback) : Turn Scope (Except Error Handle) :=
  s.register (((Spec.ofRole .startup).named name).calling c)

def onCleanup (s : Scope) (name : String) (c : Callback) : Turn Scope (Except Error Handle) :=
  s.register (((Spec.ofRole .cleanup).named name).calling c)

/-- A startup hook together with the cleanup hook that releases it. -/
def acquire (s : Scope) (name : String) (c release : Callback) :
    Turn Scope (Except Error Handle) :=
  let taken := s.onStartup name c
  match taken.answer with
  | .error e => ⟨.error e, taken.state, taken.effects⟩
  | .ok owner =>
    let given := taken.state.register
      (((Spec.ofRole (.releasing owner)).named (name ++ ":release")).calling release)
    ⟨given.answer.map fun _ => owner, given.state, taken.effects ++ given.effects⟩

end Scope

/-- One thing that a module does when it is loaded. -/
inductive Enrolment
  | onStartup (name : String) (callback : Callback)
  | onCleanup (name : String) (callback : Callback)
  | acquire (name : String) (callback release : Callback)
  | register (spec : Spec)
  | fail (module : String)
  deriving DecidableEq, Repr

def Enrolment.perform (s : Scope) : Enrolment → Turn Scope (Except Error Handle)
  | onStartup name c => s.onStartup name c
  | onCleanup name c => s.onCleanup name c
  | acquire name c release => s.acquire name c release
  | register spec => s.register spec
  | fail module => .still s (.error (.incompleteLoad module))

/-- A step that is lenient goes on after an error. -/
structure ModuleStep where
  enrolment : Enrolment
  lenient : Bool
  deriving DecidableEq, Repr

structure Module where
  name : String
  steps : List ModuleStep
  deriving DecidableEq, Repr

/-- What came of a module's steps: the answer to each one that was taken, the error
that ended them if one did, and every handle the module was given. -/
structure Enrolled where
  answers : List (Except Error Handle)
  result : Except Error Unit
  handles : List Handle

namespace Module

/-- Steps are taken in order up to the first error that is not let pass. -/
def enrolAll (s : Scope) : List ModuleStep → Turn Scope Enrolled
  | [] => .still s ⟨[], .ok (), s.handles⟩
  | step :: steps =>
    let t := step.enrolment.perform s
    let onward : Turn Scope Enrolled :=
      let rest := enrolAll t.state steps
      ⟨{ rest.answer with answers := t.answer :: rest.answer.answers }, rest.state,
        t.effects ++ rest.effects⟩
    match t.answer with
    | .ok _ => onward
    | .error e =>
      if step.lenient then onward
      else ⟨⟨[t.answer], .error e, t.state.handles⟩, t.state, t.effects⟩

def enrol (m : Module) (r : Registry) : Turn Scope Enrolled :=
  enrolAll (.enter m.name r) m.steps

end Module
end Bookend

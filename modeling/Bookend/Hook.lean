import Bookend.Shutdown.Reason

namespace Bookend

/-- The two ends of a program's life. -/
inductive Phase
  | startup
  | cleanup
  deriving DecidableEq, Repr

def Phase.text : Phase → String
  | startup => "startup"
  | cleanup => "cleanup"

/-- A hook is known by its place in the order of registration, from 1 up. -/
abbrev Handle := Nat

def Handle.text (h : Handle) : String := "#" ++ toString h

/-- What a panic carries out of the code it leaves. -/
inductive Payload
  | text (s : String)
  | other
  deriving DecidableEq, Repr

def Payload.describe : Payload → String
  | text s => s
  | other => "unknown panic payload"

/-- How a callback ends. -/
inductive Outcome
  | ok
  | error (message : String)
  | panic (payload : Payload)
  deriving DecidableEq, Repr

/-- The body of a hook: it leaves its label, sends shutdown reasons, then ends. -/
structure Callback where
  label : Option String
  sends : List Reason
  outcome : Outcome
  deriving DecidableEq, Repr

/-- Where a registered hook stands. -/
inductive Status
  | pending
  | running
  | completed
  | failed
  | skipped
  deriving DecidableEq, Repr

def Status.text : Status → String
  | pending => "pending"
  | running => "running"
  | completed => "completed"
  | failed => "failed"
  | skipped => "skipped"

/-- What a hook is there for. Only a cleanup hook can give back what a startup hook took. -/
inductive Role
  | startup
  | cleanup
  | releasing (owner : Handle)
  deriving DecidableEq, Repr

namespace Role

def phase : Role → Phase
  | startup => .startup
  | cleanup => .cleanup
  | releasing _ => .cleanup

/-- The startup hook whose acquisition is given back. -/
def releases : Role → Option Handle
  | releasing owner => some owner
  | _ => none

def ofPhase : Phase → Role
  | .startup => startup
  | .cleanup => cleanup

end Role

/-- A hook as its module asks for it. -/
structure Spec where
  role : Role
  name : Option String
  module : Option String
  priority : Option Int
  callback : Option Callback
  deriving DecidableEq, Repr

namespace Spec

def ofRole (role : Role) : Spec := ⟨role, none, none, none, none⟩

def named (s : Spec) (name : String) : Spec := { s with name := some name }

def ofModule (s : Spec) (module : String) : Spec := { s with module := some module }

def calling (s : Spec) (c : Callback) : Spec := { s with callback := some c }

end Spec

/-- A hook held by a registry. The callback is there until a pass takes it. -/
structure Hook where
  handle : Handle
  role : Role
  name : String
  module : Option String
  priority : Option Int
  callback : Option Callback
  status : Status
  deriving DecidableEq, Repr

namespace Hook

def ofSpec (h : Handle) (s : Spec) (c : Callback) : Hook where
  handle := h
  role := s.role
  name := s.name.getD ("hook-" ++ toString h)
  module := s.module
  priority := s.priority
  callback := some c
  status := .pending

def phase (k : Hook) : Phase := k.role.phase

def releases (k : Hook) : Option Handle := k.role.releases

/-- A hook without a priority of its own stands at zero. -/
def rank (k : Hook) : Int := k.priority.getD 0

/-- Lower ranks first, and of equal ranks the earlier registration. -/
def precedes (a b : Hook) : Bool :=
  a.rank < b.rank || a.rank == b.rank && a.handle ≤ b.handle

def skip (k : Hook) : Hook := { k with status := .skipped }

end Hook
end Bookend

import Bookend.Registry.Order
import Bookend.Registry.Pass
import Bookend.Settings.Basic

namespace Bookend

/-- Hooks of one program or one plugin. The startup table is kept in running order,
the other two in the order of registration. -/
structure Registry where
  rules : HookRules
  stage : Stage
  next : Handle
  startup : List Hook
  cleanup : List Hook
  atExit : List Hook
  started : List Handle
  deriving DecidableEq, Repr

namespace Registry

def new (rules : HookRules) : Registry := ⟨rules, .collecting, 1, [], [], [], []⟩

/-- Every hook, table by table. -/
def hooks (r : Registry) : List Hook := r.startup ++ r.cleanup ++ r.atExit

def hook? (r : Registry) (h : Handle) : Option Hook := r.hooks.find? (·.handle == h)

def status? (r : Registry) (h : Handle) : Option Status := (r.hook? h).map Hook.status

/-- At-exit handlers count as cleanup hooks. -/
def size (r : Registry) : Phase → Nat
  | .startup => r.startup.length
  | .cleanup => r.cleanup.length + r.atExit.length

def isEmpty (r : Registry) : Bool := r.startup.isEmpty && r.cleanup.isEmpty && r.atExit.isEmpty

/-- The order in which startup hooks run. -/
def startupOrder (r : Registry) : List Handle := r.startup.map Hook.handle

/-- The statuses of the hooks numbered from `h` on, as far as the numbers are known. -/
def statusesFrom (r : Registry) (h : Handle) : Nat → List (Handle × Status)
  | 0 => []
  | n + 1 =>
    match r.status? h with
    | some s => (h, s) :: r.statusesFrom (h + 1) n
    | none => []

def statuses (r : Registry) : List (Handle × Status) := r.statusesFrom 1 r.hooks.length

/-- The stage that the registry is in refuses `a`, or nothing does. -/
def refusal? (r : Registry) (a : Action) : Option Error :=
  if r.stage = a.stage then none else some (.invalidPhase a r.stage)

/-- The callback of a hook that may be registered now; otherwise the first of the
reasons against it. -/
def vet (r : Registry) (s : Spec) : Except Error Callback :=
  match r.refusal? .register, s.callback, s.role.releases with
  | some e, _, _ => .error e
  | none, none, _ => .error .nullCallback
  | none, some c, none => .ok c
  | none, some c, some owner =>
    if r.startup.any (·.handle == owner) then .ok c else .error (.unknownHandle owner)

/-- The running order of startup hooks: equal ranks run as they came. -/
def runsBefore (a b : Hook) : Bool := a.rank ≤ b.rank

def insert (r : Registry) (k : Hook) : Registry :=
  match k.phase with
  | .startup => { r with next := r.next + 1, startup := insertBehind runsBefore k r.startup }
  | .cleanup => { r with next := r.next + 1, cleanup := r.cleanup ++ [k] }

/-- A hook that is refused leaves the registry as it was, its number included. -/
def register (r : Registry) (s : Spec) : Turn Registry (Except Error Handle) :=
  match r.vet s with
  | .error e => .still r (.error e)
  | .ok c =>
    let k := Hook.ofSpec r.next s c
    ⟨.ok r.next, r.insert k,
      [.event (.hookRegistered k.name k.module k.phase k.handle k.rank),
        .tally .registered k.phase]⟩

/-- Adds a cleanup handler while main runs. -/
def addAtExit (r : Registry) (name : String) (c : Callback) : Turn Registry (Except Error Handle) :=
  match r.refusal? .atExit with
  | some e => .still r (.error e)
  | none =>
    let k := Hook.ofSpec r.next ((Spec.ofRole .cleanup).named name) c
    ⟨.ok r.next, { r with next := r.next + 1, atExit := r.atExit ++ [k] },
      [.event (.atExitRegistered k.name k.handle), .tally .registered .cleanup]⟩

end Registry
end Bookend

import Bookend.Registry.Basic

namespace Bookend

/-- Which cleanup hooks may run: all of them after main, only those that release
something once startup has failed. -/
inductive Sweep
  | full
  | unwind
  deriving DecidableEq, Repr

namespace Registry

def isEligible (r : Registry) (w : Sweep) (k : Hook) : Bool :=
  match k.releases with
  | some owner => r.started.contains owner
  | none => w == .full

/-- How long before the others an owner started. -/
def startPlace (r : Registry) (k : Hook) : Nat :=
  match k.releases with
  | some owner => r.started.idxOf owner
  | none => 0

/-- The owner that started later is released first; of two releases of one owner, the
later registration. -/
def releasedBefore (r : Registry) (a b : Hook) : Bool :=
  r.startPlace b < r.startPlace a ||
    r.startPlace a == r.startPlace b && b.handle ≤ a.handle

/-- At-exit handlers newest first, then hooks with a priority of their own, then
releases against the order of startup, then the rest newest first. -/
def cleanupPlan (r : Registry) (w : Sweep) : List Hook :=
  let eligible := r.cleanup.filter (r.isEligible w)
  let prioritized := eligible.filter (·.priority.isSome)
  let paired := eligible.filter fun k => k.priority.isNone && k.releases.isSome
  let unpaired := eligible.filter fun k => k.priority.isNone && k.releases.isNone
  let handlers := if w = .full then r.atExit.reverse else []
  handlers ++ arrange Hook.precedes prioritized ++ arrange r.releasedBefore paired ++
    unpaired.reverse

def ineligible (r : Registry) (w : Sweep) : List Hook :=
  r.cleanup.filter fun k => !r.isEligible w k

/-- The hook as `ks` has it, if it is among them. -/
def latest (ks : List Hook) (k : Hook) : Hook := (ks.find? (·.handle == k.handle)).getD k

/-- The cleanup tables after the hooks `ks` were attempted and the ineligible passed over. -/
def afterDrain (r : Registry) (w : Sweep) (ks : List Hook) : Registry :=
  { r with
    cleanup := r.cleanup.map fun k => if r.isEligible w k then latest ks k else k.skip
    atExit := r.atExit.map (latest ks) }

/-- Runs the planned hooks. The answer is the report, or the panic that left the pass. -/
def drain (r : Registry) (w : Sweep) : Turn Registry (Except Payload PassReport) :=
  let plan := r.cleanupPlan w
  let out := r.ineligible w
  let pass := drainAll r.rules.catchPanics plan
  let opening : Journal :=
    out.map (fun k => .event (.notEligible k.name k.handle)) ++
      [.event (.cleanupBegan plan.length (w == .unwind))]
  let r' := r.afterDrain w pass.hooks
  match pass.panic with
  | some p => ⟨.error p, r', opening ++ pass.effects⟩
  | none =>
    ⟨.ok { pass.report with skipped := out.map Hook.handle }, r',
      opening ++ pass.effects ++ [.tally .durations .cleanup]⟩

/-- Without unwinding every cleanup hook is passed over, in silence. -/
def abandon (r : Registry) : Turn Registry (Except Payload PassReport) :=
  ⟨.ok { PassReport.empty .cleanup with skipped := r.cleanup.map Hook.handle },
    { r with cleanup := r.cleanup.map Hook.skip }, []⟩

end Registry
end Bookend

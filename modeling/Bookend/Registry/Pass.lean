import Bookend.Registry.Stage
import Bookend.Journal

namespace Bookend

/-- A caught panic is an error like any other. -/
def Outcome.caught : Outcome → Outcome
  | panic p => error ("panicked: " ++ p.describe)
  | o => o

def Outcome.under (catching : Bool) (o : Outcome) : Outcome := if catching then o.caught else o

inductive Verdict
  | completed
  | failed (f : Failure)
  | panicked (p : Payload)
  deriving DecidableEq, Repr

/-- One attempt at a hook: the hook afterwards, how it went, what it left. -/
structure Invocation where
  hook : Hook
  verdict : Verdict
  effects : Journal

namespace Hook

/-- What happens up to the moment the callback is inside. -/
def opening (k : Hook) (c : Callback) : Journal :=
  [.tally .invocations k.phase, .event (.invoking k.name k.handle k.phase), .call k.handle c]

/-- The callback is used up. A panic that is not caught leaves the hook running. -/
def invoke (catching : Bool) (k : Hook) : Invocation :=
  match k.callback with
  | none =>
    ⟨{ k with status := .failed }, .failed (.ofHook k "callback already consumed"), []⟩
  | some c =>
    match c.outcome.under catching with
    | .ok => ⟨{ k with callback := none, status := .completed }, .completed, k.opening c⟩
    | .error m =>
      ⟨{ k with callback := none, status := .failed }, .failed (.ofHook k m),
        k.opening c ++
          [.tally .failures k.phase, .event (.hookFailed k.name k.handle k.phase m)]⟩
    | .panic p => ⟨{ k with callback := none, status := .running }, .panicked p, k.opening c⟩

end Hook

/-- A pass over a list of hooks: the hooks afterwards, the report so far, the panic
that left it if one did, and everything it left. -/
structure Pass where
  hooks : List Hook
  report : PassReport
  panic : Option Payload
  effects : Journal

namespace Pass

/-- The hooks that are left are passed over. -/
def skipping (p : Phase) (ks : List Hook) : Pass where
  hooks := ks.map Hook.skip
  report := { PassReport.empty p with skipped := ks.map Hook.handle }
  panic := none
  effects := []

/-- A panic leaves the pass; the hooks that are left stay as they are. -/
def cut (p : Phase) (payload : Payload) (ks : List Hook) : Pass :=
  ⟨ks, PassReport.empty p, some payload, []⟩

/-- The pass `rest` with one more attempt in front. -/
def after (i : Invocation) (rest : Pass) : Pass where
  hooks := i.hook :: rest.hooks
  report :=
    { rest.report with
      invoked := i.hook.handle :: rest.report.invoked
      completed :=
        match i.verdict with
        | .completed => i.hook.handle :: rest.report.completed
        | _ => rest.report.completed
      failures :=
        match i.verdict with
        | .failed f => f :: rest.report.failures
        | _ => rest.report.failures }
  panic := rest.panic
  effects := i.effects ++ rest.effects

end Pass

/-- Startup hooks are called in order; the first failure ends the pass. -/
def startAll (catching : Bool) : List Hook → Pass
  | [] => .skipping .startup []
  | k :: ks =>
    let i := k.invoke catching
    .after i <|
      match i.verdict with
      | .completed => startAll catching ks
      | .failed _ => .skipping .startup ks
      | .panicked p => .cut .startup p ks

/-- Cleanup hooks are called in order, whatever becomes of those before. -/
def drainAll (catching : Bool) : List Hook → Pass
  | [] => .skipping .cleanup []
  | k :: ks =>
    let i := k.invoke catching
    .after i <|
      match i.verdict with
      | .panicked p => .cut .cleanup p ks
      | _ => drainAll catching ks

end Bookend

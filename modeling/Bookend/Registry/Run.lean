import Bookend.Registry.Cleanup

namespace Bookend
namespace Registry

/-- What follows a failed startup: hooks that did start are released, if the rules say
so, and the registry is done. -/
def unwind (r : Registry) (failure : Failure) (startup : PassReport) :
    Turn Registry (Ending PassReport) :=
  let t := if r.rules.unwindOnStartupFailure then r.drain .unwind else r.abandon
  let aborted : Effect :=
    .event (.startupAborted failure.name failure.message startup.skipped.length)
  match t.answer with
  | .error p => ⟨.panic p, t.state, aborted :: t.effects⟩
  | .ok report =>
    ⟨.error (.callbackFailure failure startup report), { t.state with stage := .done },
      aborted :: t.effects⟩

/-- The startup pass. It succeeds only as a whole. -/
def runStartup (r : Registry) : Turn Registry (Ending PassReport) :=
  match r.refusal? .runStartup with
  | some e => .still r (.error e)
  | none =>
    let pass := startAll r.rules.catchPanics r.startup
    let running : Registry :=
      { r with
        stage := .startupRunning
        startup := pass.hooks
        started := r.started ++ pass.report.completed }
    let began : Journal := .event (.startupBegan r.startup.length) :: pass.effects
    match pass.panic, pass.report.failures with
    | some p, _ => ⟨.panic p, running, began⟩
    | none, [] =>
      ⟨.value pass.report, { running with stage := .ready },
        began ++ [.tally .durations .startup,
          .event (.startupCompleted pass.report.completed.length)]⟩
    | none, failure :: _ =>
      let t := running.unwind failure pass.report
      { t with effects := began ++ .tally .durations .startup :: t.effects }

/-- How the cleanup pass closes. -/
def closing (report : PassReport) : Event :=
  if report.success then .cleanupCompleted report.completed.length
  else .cleanupFailed report.failures.length report.completed.length

/-- The cleanup pass. Failures are collected and never stop it. -/
def runCleanup (r : Registry) : Turn Registry (Ending PassReport) :=
  match r.refusal? .runCleanup with
  | some e => .still r (.error e)
  | none =>
    let t := { r with stage := .cleanupRunning }.drain .full
    match t.answer with
    | .error p => ⟨.panic p, t.state, t.effects⟩
    | .ok report =>
      ⟨.value report, { t.state with stage := .done }, t.effects ++ [.event (closing report)]⟩

end Registry

/-- A call on a registry. -/
inductive Op
  | register (spec : Spec)
  | atExit (name : String) (callback : Callback)
  | runStartup
  | runCleanup
  deriving DecidableEq, Repr

/-- What a call that is not refused gives back. -/
inductive Answer
  | handle (h : Handle)
  | report (r : PassReport)
  deriving DecidableEq, Repr

namespace Op

def action : Op → Action
  | register _ => .register
  | atExit _ _ => .atExit
  | runStartup => .runStartup
  | runCleanup => .runCleanup

end Op

namespace Ending

def ofExcept : Except Error α → Ending α
  | .ok a => .value a
  | .error e => .error e

def map (f : α → β) : Ending α → Ending β
  | .value a => .value (f a)
  | .error e => .error e
  | .panic p => .panic p

end Ending

def Turn.map (f : α → β) (t : Turn σ α) : Turn σ β := ⟨f t.answer, t.state, t.effects⟩

namespace Registry

def perform (r : Registry) : Op → Turn Registry (Ending Answer)
  | .register s => (r.register s).map fun a => (Ending.ofExcept a).map .handle
  | .atExit name c => (r.addAtExit name c).map fun a => (Ending.ofExcept a).map .handle
  | .runStartup => r.runStartup.map (·.map .report)
  | .runCleanup => r.runCleanup.map (·.map .report)

/-- The calls one after another, each on what the one before left; every step is kept. -/
def trail (r : Registry) : List Op → List (Turn Registry (Ending Answer))
  | [] => []
  | op :: ops =>
    let t := r.perform op
    t :: t.state.trail ops

/-- The registry that a list of calls leaves. -/
def run (r : Registry) (ops : List Op) : Registry := ops.foldl (fun r op => (r.perform op).state) r

end Registry

/-- What all steps left, in order. -/
def journalOf (ts : List (Turn σ α)) : Journal := ts.flatMap Turn.effects

end Bookend

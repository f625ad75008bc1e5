import Bookend.Event

namespace Bookend

/-- What is counted, each by phase. -/
inductive Metric
  | registered
  | invocations
  | failures
  | durations
  deriving DecidableEq, Repr

namespace Metric

def text : Metric → String
  | registered => "lifecycle_hooks_registered_total"
  | invocations => "lifecycle_hook_invocations_total"
  | failures => "lifecycle_hook_failures_total"
  | durations => "lifecycle_phase_duration_seconds"

def all : List Metric := [registered, invocations, failures, durations]

/-- The name under which a counter of one phase is shown. -/
def key (m : Metric) (p : Phase) : String := m.text ++ "\x7bphase=" ++ p.text ++ "\x7d"

end Metric

/-- One thing that a step leaves in the world, in the order it happens. -/
inductive Effect
  | event (e : Event)
  | tally (m : Metric) (p : Phase)
  | call (h : Handle) (c : Callback)
  | main (label : Option String) (sends : List Reason)
  deriving DecidableEq, Repr

/-- Everything a run left, oldest first. -/
abbrev Journal := List Effect

namespace Journal

def events (j : Journal) : List Event :=
  j.filterMap fun
    | .event e => some e
    | _ => none

/-- The callbacks that were called, each with the hook it belongs to. -/
def calls (j : Journal) : List (Handle × Callback) :=
  j.filterMap fun
    | .call h c => some (h, c)
    | _ => none

/-- The labels left by callbacks and by main. -/
def labels (j : Journal) : List String :=
  j.filterMap fun
    | .call _ c => c.label
    | .main l _ => l
    | _ => none

/-- The reasons sent by callbacks and by main. -/
def sends (j : Journal) : List Reason :=
  j.flatMap fun
    | .call _ c => c.sends
    | .main _ rs => rs
    | _ => []

def total (j : Journal) (m : Metric) (p : Phase) : Nat := j.count (.tally m p)

/-- The counters that were touched, with their totals. -/
def totals (j : Journal) : List (String × Nat) :=
  (Metric.all.flatMap fun m => [Phase.startup, .cleanup].map fun p => (m.key p, j.total m p)).filter
    fun e => e.2 != 0

/-- A reason that is sent while `listeners` wait on the channel is announced right there. -/
def announced (listeners : Nat) (j : Journal) : Journal :=
  j.flatMap fun
    | .call h c => .call h c :: c.sends.map fun r => .event (.shutdownTriggered r listeners)
    | .main l rs => .main l rs :: rs.map fun r => .event (.shutdownTriggered r listeners)
    | e => [e]

end Journal

/-- One step of something with a state: its answer, the state after it, and what it left. -/
structure Turn (σ α : Type) where
  answer : α
  state : σ
  effects : Journal

/-- A step that only answers. -/
def Turn.still (s : σ) (a : α) : Turn σ α := ⟨a, s, []⟩

end Bookend

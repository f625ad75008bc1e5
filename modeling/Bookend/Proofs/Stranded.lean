import Bookend.Proofs.Calls

namespace Bookend
namespace Registry

/-- A pass is under way, which between two calls only a panic can have left. -/
def Stranded (r : Registry) : Prop := r.stage = .startupRunning ∨ r.stage = .cleanupRunning

variable {r : Registry}

/-- No stage follows in which a call is admitted. -/
def Closed (r : Registry) : Prop := r.stage ≠ .collecting ∧ r.stage ≠ .ready

theorem Stranded.closed (h : r.Stranded) : r.Closed := by
  rcases h with h | h <;> simp [Closed, h]

theorem Closed.perform (h : r.Closed) (op : Op) :
    r.perform op = .still r (.error (.invalidPhase op.action r.stage)) := by
  apply perform_refused
  cases op with
  | register s => exact h.1
  | atExit name c => exact h.2
  | runStartup => exact h.1
  | runCleanup => exact h.2

/-- Nothing ever happens to a closed registry again. -/
theorem Closed.trail (h : r.Closed) (ops : List Op) :
    r.run ops = r ∧ r.trail ops =
      ops.map fun op => .still r (.error (.invalidPhase op.action r.stage)) := by
  induction ops with
  | nil => exact ⟨rfl, rfl⟩
  | cons op ops ih =>
    obtain ⟨hrun, htrail⟩ := ih
    have hstep := h.perform op
    refine ⟨?_, ?_⟩
    · change (r.perform op).state.run ops = r
      rw [hstep]
      exact hrun
    · rw [Registry.trail, hstep, List.map_cons, ← htrail]
      rfl

theorem Stranded.perform (h : r.Stranded) (op : Op) :
    r.perform op = .still r (.error (.invalidPhase op.action r.stage)) :=
  h.closed.perform op

theorem Stranded.trail (h : r.Stranded) (ops : List Op) :
    r.run ops = r ∧ r.trail ops =
      ops.map fun op => .still r (.error (.invalidPhase op.action r.stage)) :=
  h.closed.trail ops

theorem drain_stage (r : Registry) (w : Sweep) : (r.drain w).state.stage = r.stage := by
  simp only [drain]
  split <;> rfl

theorem unwind_stranded (hs : r.stage = .startupRunning) (f : Failure) (startup : PassReport) :
    (r.unwind f startup).state.Stranded ↔ ∃ p, (r.unwind f startup).answer = .panic p := by
  cases hrule : r.rules.unwindOnStartupFailure with
  | false => simp [unwind_of_abandoned f startup hrule, Stranded]
  | true =>
    cases ha : (r.drain .unwind).answer with
    | ok report => simp [unwind_of_swept f startup hrule ha, Stranded]
    | error p => simp [unwind_of_left f startup hrule ha, Stranded, drain_stage, hs]

theorem runStartup_stranded (hs : r.stage = .collecting) :
    r.runStartup.state.Stranded ↔ ∃ p, r.runStartup.answer = .panic p := by
  simp only [runStartup, refusal?_of_stage (a := .runStartup) hs]
  split
  · simp [Stranded]
  · simp [Stranded]
  · exact unwind_stranded rfl _ _

theorem runCleanup_stranded (hs : r.stage = .ready) :
    r.runCleanup.state.Stranded ↔ ∃ p, r.runCleanup.answer = .panic p := by
  simp only [runCleanup, refusal?_of_stage (a := .runCleanup) hs]
  split
  · simp [Stranded, drain_stage]
  · simp [Stranded]

theorem register_answer (r : Registry) (s : Spec) (p : Payload) :
    (r.perform (.register s)).answer ≠ .panic p := by
  simp only [perform, Turn.map]
  cases (r.register s).answer <;> simp [Ending.ofExcept, Ending.map]

theorem atExit_answer (r : Registry) (name : String) (c : Callback) (p : Payload) :
    (r.perform (.atExit name c)).answer ≠ .panic p := by
  simp only [perform, Turn.map]
  cases (r.addAtExit name c).answer <;> simp [Ending.ofExcept, Ending.map]

theorem register_stage (r : Registry) (s : Spec) :
    (r.perform (.register s)).state.stage = r.stage := by
  simp only [perform, Turn.map, register]
  split
  · rfl
  · exact (insert_frame r _).1

theorem atExit_stage (r : Registry) (name : String) (c : Callback) :
    (r.perform (.atExit name c)).state.stage = r.stage := by
  simp only [perform, Turn.map, addAtExit]
  split <;> rfl

/-- A call strands a registry just if a panic gets out of it. -/
theorem perform_stranded (h : ¬r.Stranded) (op : Op) :
    (r.perform op).state.Stranded ↔ ∃ p, (r.perform op).answer = .panic p := by
  by_cases hs : r.stage = op.action.stage
  · cases op with
    | register s => simpa [Stranded, register_stage, register_answer] using h
    | atExit name c => simpa [Stranded, atExit_stage, atExit_answer] using h
    | runStartup => simpa [perform, Turn.map, Ending.map_eq_panic] using runStartup_stranded hs
    | runCleanup => simpa [perform, Turn.map, Ending.map_eq_panic] using runCleanup_stranded hs
  · rw [perform_refused hs]
    exact iff_of_false h (by simp [Turn.still])

theorem stranded_of_panic {op : Op} {p : Payload} (h : (r.perform op).answer = .panic p) :
    (r.perform op).state.Stranded := by
  by_cases hs : r.Stranded
  · rw [hs.perform op] at h
    cases h
  · exact (perform_stranded hs op).mpr ⟨p, h⟩

/-- A registry is stranded just if a panic got out of one of its calls. -/
theorem run_stranded (h : ¬r.Stranded) (ops : List Op) :
    (r.run ops).Stranded ↔ ∃ t ∈ r.trail ops, ∃ p, t.answer = .panic p := by
  induction ops generalizing r with
  | nil => simpa [run, trail] using h
  | cons op ops ih =>
    change ((r.perform op).state.run ops).Stranded ↔ _
    rw [trail, List.exists_mem_cons_iff, ← perform_stranded h op]
    by_cases hnext : (r.perform op).state.Stranded
    · rw [(hnext.trail ops).1]
      simp [hnext]
    · simp [hnext, ih hnext]

end Registry
end Bookend

import Bookend.Proofs.Step

namespace Bookend

/-- The hooks that a startup pass attempts, in order. -/
def startAttempts (catching : Bool) : List Hook → List Hook
  | [] => []
  | k :: ks =>
    k :: match (k.invoke catching).verdict with
      | .completed => startAttempts catching ks
      | _ => []

/-- The hooks that a cleanup pass attempts, in order. -/
def drainAttempts (catching : Bool) : List Hook → List Hook
  | [] => []
  | k :: ks =>
    k :: match (k.invoke catching).verdict with
      | .panicked _ => []
      | _ => drainAttempts catching ks

section
variable {b : Bool} {pre ks : List Hook} {k : Hook}

/-- Every attempt of a startup pass shows in its report and in what it leaves, and there is
nothing else in them. -/
theorem startAll_attempts (b : Bool) (ks : List Hook) :
    (startAll b ks).report.invoked = (startAttempts b ks).map Hook.handle ∧
      (startAll b ks).effects = (startAttempts b ks).flatMap fun k => (k.invoke b).effects := by
  induction ks with
  | nil => exact ⟨rfl, rfl⟩
  | cons k ks ih =>
    obtain ⟨hinvoked, heffects⟩ := ih
    have hself : (k.invoke b).hook.handle = k.handle := k.tried_handle b
    cases hv : (k.invoke b).verdict <;>
      simp [startAll, startAttempts, Pass.after, Pass.skipping, Pass.cut, PassReport.empty, hv,
        hself, hinvoked, heffects]

theorem drainAll_attempts (b : Bool) (ks : List Hook) :
    (drainAll b ks).report.invoked = (drainAttempts b ks).map Hook.handle ∧
      (drainAll b ks).effects = (drainAttempts b ks).flatMap fun k => (k.invoke b).effects := by
  induction ks with
  | nil => exact ⟨rfl, rfl⟩
  | cons k ks ih =>
    obtain ⟨hinvoked, heffects⟩ := ih
    have hself : (k.invoke b).hook.handle = k.handle := k.tried_handle b
    cases hv : (k.invoke b).verdict <;>
      simp [drainAll, drainAttempts, Pass.after, Pass.cut, PassReport.empty, hv, hself, hinvoked,
        heffects]

theorem startAttempts_append (h : ∀ a ∈ pre, a.verdict b = .completed) :
    startAttempts b (pre ++ ks) = pre ++ startAttempts b ks := by
  induction pre with
  | nil => rfl
  | cons a pre ih =>
    obtain ⟨ha, hpre⟩ := List.forall_mem_cons.mp h
    rw [Hook.verdict] at ha
    simp [startAttempts, ha, ih hpre]

theorem startAttempts_of_completed (h : ∀ a ∈ ks, a.verdict b = .completed) :
    startAttempts b ks = ks := by
  have ht : startAttempts b (ks ++ []) = _ := startAttempts_append h
  simpa [startAttempts] using ht

theorem startAttempts_of_stopped (post : List Hook) (h : ∀ a ∈ pre, a.verdict b = .completed)
    (hk : k.verdict b ≠ .completed) : startAttempts b (pre ++ k :: post) = pre ++ [k] := by
  rw [startAttempts_append h, startAttempts]
  rw [Hook.verdict] at hk
  cases hv : (k.invoke b).verdict with
  | completed => exact absurd hv hk
  | failed f => rfl
  | panicked p => rfl

theorem drainAttempts_append (h : ∀ a ∈ pre, ∀ p, a.verdict b ≠ .panicked p) :
    drainAttempts b (pre ++ ks) = pre ++ drainAttempts b ks := by
  induction pre with
  | nil => rfl
  | cons a pre ih =>
    obtain ⟨ha, hpre⟩ := List.forall_mem_cons.mp h
    rw [List.cons_append, drainAttempts, ih hpre]
    cases hv : (a.invoke b).verdict with
    | completed => rfl
    | failed f => rfl
    | panicked p => exact absurd hv (ha p)

theorem drainAttempts_of_calm (h : ∀ a ∈ ks, ∀ p, a.verdict b ≠ .panicked p) :
    drainAttempts b ks = ks := by
  have ht : drainAttempts b (ks ++ []) = _ := drainAttempts_append h
  simpa [drainAttempts] using ht

theorem drainAttempts_of_panicked {p : Payload} (post : List Hook)
    (h : ∀ a ∈ pre, ∀ p, a.verdict b ≠ .panicked p) (hk : k.verdict b = .panicked p) :
    drainAttempts b (pre ++ k :: post) = pre ++ [k] := by
  rw [Hook.verdict] at hk
  rw [drainAttempts_append h, drainAttempts, hk]

/-- A cleanup pass attempts its hooks from the front. -/
theorem drainAttempts_first (b : Bool) (ks : List Hook) : drainAttempts b ks <+: ks := by
  rcases drainAll_cases b ks with hcalm | ⟨pre, k, post, p, rfl, hpre, hk⟩
  · exact ⟨[], by rw [drainAttempts_of_calm hcalm, List.append_nil]⟩
  · rw [drainAttempts_of_panicked post hpre hk]
    exact ⟨post, by simp⟩

end

namespace Registry

/-- What is attempted after startup has failed. -/
def unwindAttempts (r : Registry) : List Hook :=
  if r.rules.unwindOnStartupFailure then
    drainAttempts r.rules.catchPanics (r.cleanupPlan .unwind)
  else []

def startupAttempts (r : Registry) : List Hook :=
  let pass := startAll r.rules.catchPanics r.startup
  startAttempts r.rules.catchPanics r.startup ++
    match pass.panic, pass.report.failures with
    | none, _ :: _ =>
      unwindAttempts { r with
        stage := .startupRunning
        startup := pass.hooks
        started := r.started ++ pass.report.completed }
    | _, _ => []

/-- The hooks that a call attempts, in order, each as the call finds it. -/
def attempts (r : Registry) : Op → List Hook
  | .register _ | .atExit _ _ => []
  | .runStartup => if r.stage = .collecting then r.startupAttempts else []
  | .runCleanup =>
    if r.stage = .ready then drainAttempts r.rules.catchPanics (r.cleanupPlan .full) else []

section
variable {r : Registry} {pre post : List Hook} {k : Hook}

theorem attempts_of_refused {op : Op} (h : r.stage ≠ op.action.stage) : r.attempts op = [] := by
  cases op with
  | register s => rfl
  | atExit name c => rfl
  | runStartup => exact if_neg h
  | runCleanup => exact if_neg h

theorem attempts_runStartup (hs : r.stage = .collecting) :
    r.attempts .runStartup = r.startupAttempts :=
  if_pos hs

theorem attempts_runCleanup (hs : r.stage = .ready) :
    r.attempts .runCleanup = drainAttempts r.rules.catchPanics (r.cleanupPlan .full) :=
  if_pos hs

theorem startupAttempts_of_completed
    (h : ∀ k ∈ r.startup, k.verdict r.rules.catchPanics = .completed) :
    r.startupAttempts = r.startup := by
  have hreport := Pass.attempted_report_of_completed (.skipping .startup []) h
  simp only [startupAttempts, startAll_of_completed h, hreport, startAttempts_of_completed h]
  simp [Pass.attempted, Pass.skipping, PassReport.empty]

theorem startupAttempts_of_failed {f : Failure} (h : r.StopsAt pre k post)
    (hk : k.verdict r.rules.catchPanics = .failed f) :
    r.startupAttempts = pre ++ [k] ++ (r.failedAt pre k post).unwindAttempts := by
  have hpass := startAll_of_failed post h.completed hk
  have hreport := Pass.attempted_report_of_failed post h.completed hk
  have hcame := startAttempts_of_stopped post h.completed (k := k) (by simp [hk])
  rw [← h.table] at hpass hcame
  simp only [startupAttempts, hpass, hreport, hcame]
  simp only [Pass.attempted, Pass.skipping, failedAt, startingUp]

theorem startupAttempts_of_panicked {p : Payload} (h : r.StopsAt pre k post)
    (hk : k.verdict r.rules.catchPanics = .panicked p) : r.startupAttempts = pre ++ [k] := by
  have hpass := startAll_of_panicked post h.completed hk
  have hcame := startAttempts_of_stopped post h.completed (k := k) (by simp [hk])
  rw [← h.table] at hpass hcame
  simp only [startupAttempts, hpass, hcame]
  simp [Pass.attempted, Pass.cut]

end

end Registry
end Bookend

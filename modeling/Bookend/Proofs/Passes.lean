import Bookend.Proofs.Entries

namespace Bookend

/-- The reports that an answer yields, in the order of the passes. -/
def Ending.reports : Ending Answer → List PassReport
  | .value (.report p) => [p]
  | .error (.callbackFailure _ startup unwind) => [startup, unwind]
  | _ => []

namespace Registry

/-- What a startup pass reports that came through. -/
def startedReport (r : Registry) : PassReport := ⟨.startup, r.startupOrder, r.startupOrder, [], []⟩

/-- What is reported when a failed startup is not unwound. -/
def abandonedReport (r : Registry) : PassReport :=
  { PassReport.empty .cleanup with skipped := r.cleanup.map Hook.handle }

/-- What a startup pass leaves that came through. -/
def startedEffects (r : Registry) : Journal :=
  .event (.startupBegan r.startup.length) ::
      (Pass.attempted r.rules.catchPanics r.startup (.skipping .startup [])).effects ++
    [.tally .durations .startup, .event (.startupCompleted r.startup.length)]

/-- What a sweep leaves that came through. -/
def sweepEffects (r : Registry) (w : Sweep) : Journal :=
  r.sweepOpening w ++
    (Pass.attempted r.rules.catchPanics (r.cleanupPlan w) (.skipping .cleanup [])).effects ++
    [.tally .durations .cleanup]

/-- The registry behind a sweep that came through. -/
def afterSweep (r : Registry) (w : Sweep) : Registry :=
  { r.swept w ((r.cleanupPlan w).map Hook.handle) with stage := .done }

/-- How a call of a pass comes back. -/
inductive Returned (r : Registry) : Op → Turn Registry (Ending Answer) → Prop
  | started (stage : r.stage = .collecting)
      (all : ∀ k ∈ r.startup, k.verdict r.rules.catchPanics = .completed) :
      Returned r .runStartup
        ⟨.value (.report r.startedReport),
          { r.startingUp (r.startup.map (Hook.tried r.rules.catchPanics)) r.startup with
            stage := .ready },
          r.startedEffects⟩
  | unwound {pre post : List Hook} {k : Hook} {f : Failure} (stage : r.stage = .collecting)
      (stops : r.StopsAt pre k post) (failed : k.verdict r.rules.catchPanics = .failed f)
      (rule : r.rules.unwindOnStartupFailure = true)
      (calm : ∀ a ∈ (r.failedAt pre k post).cleanupPlan .unwind, ∀ p,
        a.verdict r.rules.catchPanics ≠ .panicked p) :
      Returned r .runStartup
        ⟨.error (.callbackFailure f (failedReport pre k post f)
            ((r.failedAt pre k post).sweepReport .unwind)),
          (r.failedAt pre k post).afterSweep .unwind,
          r.failedOpening pre k post f ++ (r.failedAt pre k post).sweepEffects .unwind⟩
  | abandoned {pre post : List Hook} {k : Hook} {f : Failure} (stage : r.stage = .collecting)
      (stops : r.StopsAt pre k post) (failed : k.verdict r.rules.catchPanics = .failed f)
      (rule : r.rules.unwindOnStartupFailure = false) :
      Returned r .runStartup
        ⟨.error (.callbackFailure f (failedReport pre k post f) r.abandonedReport),
          { r.failedAt pre k post with stage := .done, cleanup := r.cleanup.map Hook.skip },
          r.failedOpening pre k post f⟩
  | cleaned (stage : r.stage = .ready)
      (calm : ∀ k ∈ r.cleanupPlan .full, ∀ p, k.verdict r.rules.catchPanics ≠ .panicked p) :
      Returned r .runCleanup
        ⟨.value (.report (r.sweepReport .full)), r.afterSweep .full,
          r.sweepEffects .full ++ [.event (closing (r.sweepReport .full))]⟩

variable {r s : Registry} {op : Op} {p : PassReport}

/-- A panic that nobody catches leaves the call. -/
def Torn (r : Registry) (t : Turn Registry (Ending Answer)) : Prop :=
  r.rules.catchPanics = false ∧ ∃ q, t.answer = .panic q

theorem Torn.reports {t : Turn Registry (Ending Answer)} (h : r.Torn t) :
    t.answer.reports = [] := by
  obtain ⟨_, q, ha⟩ := h
  rw [ha]
  rfl

/-- A startup call comes through as a whole, or it fails and whatever it unwinds comes through. -/
theorem Tables.runStartup_ends (t : r.Tables) (hs : r.stage = .collecting) :
    r.Returned .runStartup (r.perform .runStartup) ∨ r.Torn (r.perform .runStartup) := by
  have hself : r.perform .runStartup = r.runStartup.map (·.map .report) := rfl
  rw [hself]
  rcases startAll_cases r.rules.catchPanics r.startup with
    hall | ⟨pre, k, post, htable, hpre, ⟨f, hk⟩ | ⟨q, hk⟩⟩
  · rw [runStartup_of_completed hs hall]
    exact Or.inl (.started hs hall)
  · have hstops : r.StopsAt pre k post := ⟨htable, hpre⟩
    cases hrule : r.rules.unwindOnStartupFailure with
    | false =>
      rw [runStartup_of_abandoned hs hstops hk hrule]
      exact Or.inl (.abandoned hs hstops hk hrule)
    | true =>
      rcases drainAll_cases r.rules.catchPanics ((r.failedAt pre k post).cleanupPlan .unwind) with
        hcalm | ⟨as, a, bs, q, hplan, has, ha⟩
      · rw [t.runStartup_of_swept hs hstops hk hrule hcalm]
        exact Or.inl (.unwound hs hstops hk hrule hcalm)
      · have hrule' : (r.failedAt pre k post).rules.unwindOnStartupFailure = true := hrule
        have hdrain := (t.failedAt hstops).drain_of_panicked hplan has ha
        have hleft : ((r.failedAt pre k post).drain .unwind).answer = .error q := by rw [hdrain]
        rw [runStartup_of_failed hs hstops hk, unwind_of_left _ _ hrule' hleft]
        exact Or.inr ⟨(Hook.verdict_panicked ha).1, q, rfl⟩
  · rw [runStartup_of_panicked hs ⟨htable, hpre⟩ hk]
    exact Or.inr ⟨(Hook.verdict_panicked hk).1, q, rfl⟩

theorem Tables.runCleanup_ends (t : r.Tables) (hs : r.stage = .ready) :
    r.Returned .runCleanup (r.perform .runCleanup) ∨ r.Torn (r.perform .runCleanup) := by
  have hself : r.perform .runCleanup = r.runCleanup.map (·.map .report) := rfl
  rw [hself]
  rcases drainAll_cases r.rules.catchPanics (r.cleanupPlan .full) with
    hcalm | ⟨pre, k, post, q, hplan, hpre, hk⟩
  · rw [t.runCleanup_through hs hcalm]
    exact Or.inl (.cleaned hs hcalm)
  · have hdrain := (t.atStage .cleanupRunning).drain_of_panicked (w := .full) hplan hpre hk
    simp only [runCleanup, refusal?_of_stage (a := .runCleanup) hs, hdrain]
    exact Or.inr ⟨(Hook.verdict_panicked hk).1, q, rfl⟩

/-- A pass that its stage admits comes back, or a panic leaves it. -/
theorem Tables.pass_ends (t : r.Tables) (hpass : op.action.enrols = false)
    (hs : r.stage = op.action.stage) : r.Returned op (r.perform op) ∨ r.Torn (r.perform op) := by
  cases op with
  | register spec => cases hpass
  | atExit name c => cases hpass
  | runStartup => exact t.runStartup_ends hs
  | runCleanup => exact t.runCleanup_ends hs

theorem reports_of_refuses {a : Ending Answer} (h : a.refuses = true) : a.reports = [] := by
  cases a with
  | value a => cases h
  | panic q => cases h
  | error e => cases e <;> first | rfl | cases h

/-- A registration yields no report. -/
theorem Tables.reports_of_enrols (t : r.Tables) (h : op.action.enrols = true) :
    (r.perform op).answer.reports = [] := by
  cases t.perform_growth op with
  | kept idle => exact reports_of_refuses (idle.resolve_left (by simp [h]))
  | hook _ _ _ answer => rw [answer]; rfl
  | handler _ _ _ answer => rw [answer]; rfl

/-- Whatever is reported comes of a pass that came back. -/
theorem Tables.perform_returned (t : r.Tables) (h : p ∈ (r.perform op).answer.reports) :
    r.Returned op (r.perform op) := by
  cases henrols : op.action.enrols with
  | true =>
    rw [t.reports_of_enrols henrols] at h
    cases h
  | false =>
    by_cases hs : r.stage = op.action.stage
    · refine (t.pass_ends henrols hs).resolve_right fun torn => ?_
      rw [torn.reports] at h
      cases h
    · rw [perform_refused hs] at h
      cases h

theorem Returned.reports_ne_nil {t : Turn Registry (Ending Answer)} (h : r.Returned op t) :
    t.answer.reports ≠ [] := by
  cases h <;> simp [Ending.reports]

/-- Nothing is registered by a call that runs a pass. -/
theorem Returned.spec? {t : Turn Registry (Ending Answer)} (h : r.Returned op t) :
    op.spec? = none := by
  cases h <;> rfl

end Registry
end Bookend

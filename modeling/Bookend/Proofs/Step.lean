import Bookend.Proofs.Drain

namespace Bookend
namespace Registry

/-- The registry inside a startup pass that has come through `done`. -/
def startingUp (r : Registry) (table done : List Hook) : Registry :=
  { r with
    stage := .startupRunning
    startup := table
    started := r.started ++ done.map Hook.handle }

/-- The registry when startup has failed at `k`. -/
def failedAt (r : Registry) (pre : List Hook) (k : Hook) (post : List Hook) : Registry :=
  r.startingUp ((pre ++ [k]).map (Hook.tried r.rules.catchPanics) ++ post.map Hook.skip) pre

/-- The first startup hook that does not complete, and what comes before and after it. -/
structure StopsAt (r : Registry) (pre : List Hook) (k : Hook) (post : List Hook) : Prop where
  table : r.startup = pre ++ k :: post
  completed : ∀ a ∈ pre, a.verdict r.rules.catchPanics = .completed

theorem refusal?_of_stage {r : Registry} {a : Action} (h : r.stage = a.stage) :
    r.refusal? a = none := by
  simp [refusal?, h]

theorem stage_of_refusal? {r : Registry} {a : Action} (h : r.refusal? a = none) :
    r.stage = a.stage := by
  simpa [refusal?] using h

section
variable {r : Registry} {pre post : List Hook} {k : Hook}

theorem startingUp_alike {table done : List Hook}
    (h : table.map Hook.plain = r.startup.map Hook.plain) : r.Alike (r.startingUp table done) :=
  ⟨rfl, h, rfl, rfl⟩

theorem StopsAt.failedAt_alike (h : r.StopsAt pre k post) : r.Alike (r.failedAt pre k post) :=
  startingUp_alike (by simp [h.table, Function.comp_def])

theorem Tables.failedAt (t : r.Tables) (h : r.StopsAt pre k post) :
    (r.failedAt pre k post).Tables :=
  h.failedAt_alike.tables t

theorem Tables.atStage (t : r.Tables) (s : Stage) : { r with stage := s }.Tables := by
  have h : r.Alike { r with stage := s } := ⟨rfl, rfl, rfl, rfl⟩
  exact h.tables t

theorem runStartup_of_completed (hs : r.stage = .collecting)
    (h : ∀ k ∈ r.startup, k.verdict r.rules.catchPanics = .completed) :
    r.runStartup =
      ⟨.value ⟨.startup, r.startupOrder, r.startupOrder, [], []⟩,
        { r.startingUp (r.startup.map (Hook.tried r.rules.catchPanics)) r.startup with
          stage := .ready },
        .event (.startupBegan r.startup.length) ::
            (Pass.attempted r.rules.catchPanics r.startup (.skipping .startup [])).effects ++
          [.tally .durations .startup, .event (.startupCompleted r.startup.length)]⟩ := by
  have hreport := Pass.attempted_report_of_completed (.skipping .startup []) h
  simp only [runStartup, refusal?_of_stage (a := .runStartup) hs, startAll_of_completed h, hreport]
  simp [Pass.attempted, Pass.skipping, PassReport.empty, startingUp, startupOrder]

theorem runStartup_of_failed {f : Failure} (hs : r.stage = .collecting) (h : r.StopsAt pre k post)
    (hk : k.verdict r.rules.catchPanics = .failed f) :
    r.runStartup =
      let t := (r.failedAt pre k post).unwind f
        ⟨.startup, (pre ++ [k]).map Hook.handle, pre.map Hook.handle, post.map Hook.handle, [f]⟩
      { t with effects :=
          .event (.startupBegan r.startup.length) ::
              (Pass.attempted r.rules.catchPanics (pre ++ [k]) (.skipping .startup post)).effects ++
            .tally .durations .startup :: t.effects } := by
  have hpass := startAll_of_failed post h.completed hk
  have hreport := Pass.attempted_report_of_failed post h.completed hk
  rw [← h.table] at hpass
  simp only [runStartup, refusal?_of_stage (a := .runStartup) hs, hpass, hreport]
  simp only [Pass.attempted, Pass.skipping, failedAt, startingUp]

theorem runStartup_of_panicked {p : Payload} (hs : r.stage = .collecting)
    (h : r.StopsAt pre k post) (hk : k.verdict r.rules.catchPanics = .panicked p) :
    r.runStartup =
      ⟨.panic p, r.startingUp ((pre ++ [k]).map (Hook.tried r.rules.catchPanics) ++ post) pre,
        .event (.startupBegan r.startup.length) ::
          (Pass.attempted r.rules.catchPanics (pre ++ [k]) (.cut .startup p post)).effects⟩ := by
  have hpass := startAll_of_panicked post h.completed hk
  have hfilter : (pre ++ [k]).filter (Hook.verdict r.rules.catchPanics · = .completed) = pre := by
    have hall := List.filter_eq_self.mpr fun a ha => decide_eq_true (h.completed a ha)
    simp [List.filter_append, hall, hk]
  rw [← h.table] at hpass
  simp only [runStartup, refusal?_of_stage (a := .runStartup) hs, hpass]
  simp only [Pass.attempted, Pass.cut, PassReport.empty, hfilter, List.append_nil, startingUp]

end

section
variable {r : Registry} (failure : Failure) (startup : PassReport)

theorem unwind_of_swept {report : PassReport} (hrule : r.rules.unwindOnStartupFailure = true)
    (ha : (r.drain .unwind).answer = .ok report) :
    r.unwind failure startup =
      ⟨.error (.callbackFailure failure startup report),
        { (r.drain .unwind).state with stage := .done },
        .event (.startupAborted failure.name failure.message startup.skipped.length) ::
          (r.drain .unwind).effects⟩ := by
  simp only [unwind, hrule, if_true, ha]

theorem unwind_of_left {p : Payload} (hrule : r.rules.unwindOnStartupFailure = true)
    (ha : (r.drain .unwind).answer = .error p) :
    r.unwind failure startup =
      ⟨.panic p, (r.drain .unwind).state,
        .event (.startupAborted failure.name failure.message startup.skipped.length) ::
          (r.drain .unwind).effects⟩ := by
  simp only [unwind, hrule, if_true, ha]

theorem unwind_of_abandoned (hrule : r.rules.unwindOnStartupFailure = false) :
    r.unwind failure startup =
      ⟨.error (.callbackFailure failure startup
          { PassReport.empty .cleanup with skipped := r.cleanup.map Hook.handle }),
        { r with stage := .done, cleanup := r.cleanup.map Hook.skip },
        [.event (.startupAborted failure.name failure.message startup.skipped.length)]⟩ := by
  simp [unwind, hrule, abandon]

end

/-- A sweep that called everything it planned to. -/
def SweepEnds (r : Registry) (w : Sweep) (s : Registry) : Prop :=
  (∀ k ∈ r.cleanupPlan w, ∀ p, k.verdict r.rules.catchPanics ≠ .panicked p) ∧
    s = r.swept w ((r.cleanupPlan w).map Hook.handle)

/-- A sweep that was left by the panic of one hook. -/
def SweepLeft (r : Registry) (w : Sweep) (s : Registry) : Prop :=
  ∃ pre k post p, r.cleanupPlan w = pre ++ k :: post ∧
    (∀ a ∈ pre, ∀ p, a.verdict r.rules.catchPanics ≠ .panicked p) ∧
    k.verdict r.rules.catchPanics = .panicked p ∧ s = r.swept w ((pre ++ [k]).map Hook.handle)

theorem Tables.drain_cases {r : Registry} (t : r.Tables) (w : Sweep) :
    ((∃ report, (r.drain w).answer = .ok report) ∧ r.SweepEnds w (r.drain w).state) ∨
      ((∃ p, (r.drain w).answer = .error p) ∧ r.SweepLeft w (r.drain w).state) := by
  rcases drainAll_cases r.rules.catchPanics (r.cleanupPlan w) with
    hcalm | ⟨pre, k, post, p, hplan, hpre, hk⟩
  · rw [t.drain_of_calm hcalm]
    exact Or.inl ⟨⟨_, rfl⟩, hcalm, rfl⟩
  · rw [t.drain_of_panicked hplan hpre hk]
    exact Or.inr ⟨⟨_, rfl⟩, pre, k, post, p, hplan, hpre, hk, rfl⟩

/-- Everything that a call can make of a registry. -/
inductive Step (r : Registry) : Registry → Prop
  | refused : Step r r
  | registered {s : Spec} {c : Callback} (stage : r.stage = .collecting)
      (owner : ∀ o, s.role.releases = some o → o ∈ r.startupOrder) :
      Step r (r.insert (.ofSpec r.next s c))
  | handlerAdded {name : String} {c : Callback} (stage : r.stage = .ready) :
      Step r { r with
        next := r.next + 1
        atExit := r.atExit ++ [.ofSpec r.next ((Spec.ofRole .cleanup).named name) c] }
  | started (stage : r.stage = .collecting)
      (all : ∀ k ∈ r.startup, k.verdict r.rules.catchPanics = .completed) :
      Step r { r.startingUp (r.startup.map (Hook.tried r.rules.catchPanics)) r.startup with
        stage := .ready }
  | startupLeft {p : Payload} (stage : r.stage = .collecting) (stops : r.StopsAt pre k post)
      (panicked : k.verdict r.rules.catchPanics = .panicked p) :
      Step r (r.startingUp ((pre ++ [k]).map (Hook.tried r.rules.catchPanics) ++ post) pre)
  | unwound {f : Failure} (stage : r.stage = .collecting) (stops : r.StopsAt pre k post)
      (failed : k.verdict r.rules.catchPanics = .failed f)
      (rule : r.rules.unwindOnStartupFailure = true)
      (sweep : (r.failedAt pre k post).SweepEnds .unwind s) : Step r { s with stage := .done }
  | unwindLeft {f : Failure} (stage : r.stage = .collecting) (stops : r.StopsAt pre k post)
      (failed : k.verdict r.rules.catchPanics = .failed f)
      (rule : r.rules.unwindOnStartupFailure = true)
      (sweep : (r.failedAt pre k post).SweepLeft .unwind s) : Step r s
  | abandoned {f : Failure} (stage : r.stage = .collecting) (stops : r.StopsAt pre k post)
      (failed : k.verdict r.rules.catchPanics = .failed f)
      (rule : r.rules.unwindOnStartupFailure = false) :
      Step r { r.failedAt pre k post with stage := .done, cleanup := r.cleanup.map Hook.skip }
  | cleaned (stage : r.stage = .ready)
      (sweep : { r with stage := .cleanupRunning }.SweepEnds .full s) :
      Step r { s with stage := .done }
  | cleanupLeft (stage : r.stage = .ready)
      (sweep : { r with stage := .cleanupRunning }.SweepLeft .full s) : Step r s

section
variable {r s : Registry}

theorem known_iff (r : Registry) (o : Handle) :
    r.startup.any (·.handle == o) = true ↔ o ∈ r.startupOrder := by
  simp [startupOrder]

/-- Whatever a hook lacks to be registered, nothing has happened when that is said. -/
theorem perform_of_fault {s : Spec} {e : Error} (h : r.vet s = .error e) :
    r.perform (.register s) = .still r (.error e) := by
  simp only [perform, register, h]
  rfl

theorem perform_of_vetted {s : Spec} {c : Callback} (h : r.vet s = .ok c) :
    r.perform (.register s) =
      let k := Hook.ofSpec r.next s c
      ⟨.value (.handle r.next), r.insert k,
        [.event (.hookRegistered k.name k.module k.phase k.handle k.rank),
          .tally .registered k.phase]⟩ := by
  simp only [perform, register, h]
  rfl

theorem perform_of_ready (hs : r.stage = .ready) (name : String) (c : Callback) :
    r.perform (.atExit name c) =
      let k := Hook.ofSpec r.next ((Spec.ofRole .cleanup).named name) c
      ⟨.value (.handle r.next), { r with next := r.next + 1, atExit := r.atExit ++ [k] },
        [.event (.atExitRegistered k.name k.handle), .tally .registered .cleanup]⟩ := by
  simp only [perform, addAtExit, refusal?_of_stage (a := .atExit) hs]
  rfl

theorem register_step (r : Registry) (spec : Spec) : r.Step (r.register spec).state := by
  unfold register
  split
  · exact Step.refused
  · rename_i c hv
    unfold vet at hv
    split at hv
    · cases hv
    · cases hv
    · rename_i hs _ hr
      cases hv
      refine Step.registered (stage_of_refusal? hs) ?_
      intro o ho
      rw [hr] at ho
      cases ho
    · rename_i owner hs _ hr
      split at hv
      · rename_i hany
        cases hv
        refine Step.registered (stage_of_refusal? hs) ?_
        intro o ho
        rw [hr] at ho
        cases ho
        exact (r.known_iff owner).mp hany
      · cases hv

theorem addAtExit_step (r : Registry) (name : String) (c : Callback) :
    r.Step (r.addAtExit name c).state := by
  unfold addAtExit
  split
  · exact Step.refused
  · rename_i hs
    exact Step.handlerAdded (stage_of_refusal? hs)

theorem Tables.runStartup_step (t : r.Tables) : r.Step r.runStartup.state := by
  by_cases hs : r.stage = .collecting
  · rcases startAll_cases r.rules.catchPanics r.startup with
      hall | ⟨pre, k, post, htable, hpre, ⟨f, hk⟩ | ⟨p, hk⟩⟩
    · rw [runStartup_of_completed hs hall]
      exact Step.started hs hall
    · have hstops : r.StopsAt pre k post := ⟨htable, hpre⟩
      rw [runStartup_of_failed hs hstops hk]
      cases hrule : r.rules.unwindOnStartupFailure with
      | true =>
        have hrule' : (r.failedAt pre k post).rules.unwindOnStartupFailure = true := hrule
        rcases (t.failedAt hstops).drain_cases .unwind with
          ⟨⟨report, ha⟩, hsweep⟩ | ⟨⟨p, ha⟩, hsweep⟩
        · rw [unwind_of_swept _ _ hrule' ha]
          exact Step.unwound hs hstops hk hrule hsweep
        · rw [unwind_of_left _ _ hrule' ha]
          exact Step.unwindLeft hs hstops hk hrule hsweep
      | false =>
        have hrule' : (r.failedAt pre k post).rules.unwindOnStartupFailure = false := hrule
        rw [unwind_of_abandoned _ _ hrule']
        exact Step.abandoned hs hstops hk hrule
    · have hstops : r.StopsAt pre k post := ⟨htable, hpre⟩
      rw [runStartup_of_panicked hs hstops hk]
      exact Step.startupLeft hs hstops hk
  · simp only [runStartup, refusal?, Action.stage, hs, if_false]
    exact Step.refused

theorem Tables.runCleanup_step (t : r.Tables) : r.Step r.runCleanup.state := by
  by_cases hs : r.stage = .ready
  · have ht : { r with stage := Stage.cleanupRunning }.Tables := t.atStage .cleanupRunning
    simp only [runCleanup, refusal?_of_stage (a := .runCleanup) hs]
    rcases ht.drain_cases .full with ⟨⟨report, ha⟩, hsweep⟩ | ⟨⟨p, ha⟩, hsweep⟩
    · simp only [ha]
      exact Step.cleaned hs hsweep
    · simp only [ha]
      exact Step.cleanupLeft hs hsweep
  · simp only [runCleanup, refusal?, Action.stage, hs, if_false]
    exact Step.refused

theorem Tables.perform_step (t : r.Tables) (op : Op) : r.Step (r.perform op).state := by
  cases op with
  | register spec => exact register_step r spec
  | atExit name c => exact addAtExit_step r name c
  | runStartup => exact t.runStartup_step
  | runCleanup => exact t.runCleanup_step

end

end Registry
end Bookend

import Bookend.Proofs.CleanupOrder

namespace Bookend

namespace Hook

/-- The callback returns an error, or panics where panics are caught. -/
def Fails (catching : Bool) (k : Hook) (message : String) : Prop :=
  ∃ c, k.callback = some c ∧
    (c.outcome = .error message ∨
      catching = true ∧ ∃ p, c.outcome = .panic p ∧ message = "panicked: " ++ p.describe)

/-- The hook gives back what one of `owners` took. -/
def releasesOneOf (owners : List Handle) (k : Hook) : Bool := k.releases.any owners.contains

theorem fails_iff {b : Bool} {k : Hook} {m : String} (hc : k.callback.isSome) :
    k.Fails b m ↔ k.verdict b = .failed (.ofHook k m) := by
  obtain ⟨c, hc⟩ := Option.isSome_iff_exists.mp hc
  cases b <;> cases ho : c.outcome <;>
    simp [Fails, verdict, invoke, hc, ho, Outcome.under, Outcome.caught, Failure.ofHook, eq_comm]

theorem Fails.isSome {b : Bool} {k : Hook} {m : String} (h : k.Fails b m) :
    k.callback.isSome := by
  obtain ⟨c, hc, _⟩ := h
  simp [hc]

end Hook

namespace Registry

/-- The order of an unwinding after `started` got through: of the hooks that release one of
these, first those with a priority of their own, then the others against the order of startup. -/
def unwindOrder (r : Registry) (started : List Handle) : List Hook :=
  let owed := r.cleanup.filter (Hook.releasesOneOf started)
  ascending Hook.orderKey (owed.filter (·.priority.isSome)) ++
    descending (Hook.releaseKey started) (owed.filter (·.priority.isNone))

variable {r : Registry}

theorem isEligible_unwind (k : Hook) : r.isEligible .unwind k = k.releasesOneOf r.started := by
  unfold isEligible Hook.releasesOneOf
  cases k.releases <;> rfl

/-- An unwinding calls nothing but releases of what did start. -/
theorem Tables.cleanupPlan_unwind (t : r.Tables) :
    r.cleanupPlan .unwind = r.unwindOrder r.started := by
  have helig : r.isEligible .unwind = Hook.releasesOneOf r.started := funext isEligible_unwind
  have hpaired : ∀ k ∈ r.cleanup.filter (Hook.releasesOneOf r.started),
      k.releases.isSome = true := by
    intro k hk
    have hp := (List.mem_filter.mp hk).2
    unfold Hook.releasesOneOf at hp
    cases hr : k.releases with
    | none => simp [hr] at hp
    | some o => rfl
  have hthird : (r.cleanup.filter (Hook.releasesOneOf r.started)).filter
        (fun k => k.priority.isNone && k.releases.isSome) =
      (r.cleanup.filter (Hook.releasesOneOf r.started)).filter (·.priority.isNone) := by
    apply List.filter_congr
    intro k hk
    simp [hpaired k hk]
  have hfourth : (r.cleanup.filter (Hook.releasesOneOf r.started)).filter
      (fun k => k.priority.isNone && k.releases.isNone) = [] := by
    apply List.filter_eq_nil_iff.mpr
    intro k hk
    have hs := hpaired k hk
    cases hr : k.releases with
    | none => simp [hr] at hs
    | some o => simp
  rw [t.cleanupPlan_eq, helig, hthird, hfourth]
  simp [unwindOrder, descending, ascending]

/-- No hook panics its way out of a startup call that is calm. -/
theorem runStartup_calm {pre post : List Hook} {k : Hook} (hs : r.stage = .collecting)
    (h : r.StopsAt pre k post) (hcalm : r.runStartup.effects.Calm r.rules.catchPanics)
    (p : Payload) : k.verdict r.rules.catchPanics ≠ .panicked p := by
  intro hk
  rw [runStartup_of_panicked hs h hk] at hcalm
  exact Pass.attempted_panic (by simp) hk (Journal.Calm.right (i := [_]) hcalm)

/-- A startup pass without a failure before `k` came to `k`. -/
theorem stopsAt_of_calm {pre post : List Hook} {k : Hook} (hs : r.stage = .collecting)
    (htable : r.startup = pre ++ k :: post)
    (hholding : ∀ a ∈ r.startup, a.callback.isSome)
    (hfirst : ∀ a ∈ pre, ∀ m, ¬a.Fails r.rules.catchPanics m)
    (hcalm : r.runStartup.effects.Calm r.rules.catchPanics) : r.StopsAt pre k post := by
  refine ⟨htable, ?_⟩
  rcases all_or_first (fun a : Hook => a.verdict r.rules.catchPanics = .completed) pre with
    hall | ⟨pre', a, post', rfl, hpre', ha⟩
  · exact hall
  · have hstops : r.StopsAt pre' a (post' ++ k :: post) := ⟨by simp [htable], hpre'⟩
    have hin : a ∈ pre' ++ a :: post' := by simp
    cases hv : a.verdict r.rules.catchPanics with
    | completed => exact absurd hv ha
    | failed f =>
      obtain ⟨m, rfl⟩ := Hook.verdict_failure hv
      have hsome := hholding a (by simp [htable])
      exact absurd ((Hook.fails_iff hsome).mpr hv) (hfirst a hin m)
    | panicked p => exact absurd hv (runStartup_calm hs hstops hcalm p)

section
variable {pre post : List Hook} {k : Hook} {f : Failure}

/-- What a startup pass that failed at `k` reports. -/
def failedReport (pre : List Hook) (k : Hook) (post : List Hook) (f : Failure) : PassReport :=
  ⟨.startup, (pre ++ [k]).map Hook.handle, pre.map Hook.handle, post.map Hook.handle, [f]⟩

/-- What a failed startup pass leaves before anything is released. -/
def failedOpening (r : Registry) (pre : List Hook) (k : Hook) (post : List Hook) (f : Failure) :
    Journal :=
  .event (.startupBegan r.startup.length) ::
      (Pass.attempted r.rules.catchPanics (pre ++ [k]) (.skipping .startup post)).effects ++
    [.tally .durations .startup, .event (.startupAborted f.name f.message post.length)]

theorem runStartup_of_abandoned (hs : r.stage = .collecting) (h : r.StopsAt pre k post)
    (hk : k.verdict r.rules.catchPanics = .failed f)
    (hrule : r.rules.unwindOnStartupFailure = false) :
    r.runStartup =
      ⟨.error (.callbackFailure f (failedReport pre k post f)
          { PassReport.empty .cleanup with skipped := r.cleanup.map Hook.handle }),
        { r.failedAt pre k post with stage := .done, cleanup := r.cleanup.map Hook.skip },
        r.failedOpening pre k post f⟩ := by
  have hrule' : (r.failedAt pre k post).rules.unwindOnStartupFailure = false := hrule
  rw [runStartup_of_failed hs h hk, unwind_of_abandoned _ _ hrule']
  simp [failedReport, failedOpening, failedAt, startingUp]

/-- An unwinding inside a calm startup call is not left half way. -/
theorem unwind_calm (hs : r.stage = .collecting) (h : r.StopsAt pre k post)
    (hk : k.verdict r.rules.catchPanics = .failed f)
    (hrule : r.rules.unwindOnStartupFailure = true)
    (hcalm : r.runStartup.effects.Calm r.rules.catchPanics) :
    ∀ a ∈ (r.failedAt pre k post).cleanupPlan .unwind, ∀ p,
      a.verdict r.rules.catchPanics ≠ .panicked p := by
  have hrule' : (r.failedAt pre k post).rules.unwindOnStartupFailure = true := hrule
  have hrun := runStartup_of_failed hs h hk
  apply drain_calm (r := r.failedAt pre k post)
  intro e he
  apply hcalm e
  rw [hrun]
  cases ha : ((r.failedAt pre k post).drain .unwind).answer with
  | ok report =>
    rw [unwind_of_swept _ _ hrule' ha]
    simp [he]
  | error p =>
    rw [unwind_of_left _ _ hrule' ha]
    simp [he]

/-- A startup that failed and was unwound, as a whole. -/
theorem Tables.runStartup_of_swept (t : r.Tables) (hs : r.stage = .collecting)
    (h : r.StopsAt pre k post) (hk : k.verdict r.rules.catchPanics = .failed f)
    (hrule : r.rules.unwindOnStartupFailure = true)
    (hplan : ∀ a ∈ (r.failedAt pre k post).cleanupPlan .unwind, ∀ p,
      a.verdict r.rules.catchPanics ≠ .panicked p) :
    r.runStartup =
      let q := r.failedAt pre k post
      ⟨.error (.callbackFailure f (failedReport pre k post f) (q.sweepReport .unwind)),
        { q.swept .unwind ((q.cleanupPlan .unwind).map Hook.handle) with stage := .done },
        r.failedOpening pre k post f ++ (q.sweepOpening .unwind ++
          (Pass.attempted r.rules.catchPanics (q.cleanupPlan .unwind)
            (.skipping .cleanup [])).effects ++ [.tally .durations .cleanup])⟩ := by
  have hrule' : (r.failedAt pre k post).rules.unwindOnStartupFailure = true := hrule
  have hdrain := (t.failedAt h).drain_of_calm hplan
  have hanswer : ((r.failedAt pre k post).drain .unwind).answer =
      .ok ((r.failedAt pre k post).sweepReport .unwind) := by rw [hdrain]
  rw [runStartup_of_failed hs h hk, unwind_of_swept _ _ hrule' hanswer, hdrain]
  simp [failedReport, failedOpening]
  rfl

/-- A startup that failed and was unwound, its panics all caught. -/
theorem Tables.runStartup_of_unwound (t : r.Tables) (hs : r.stage = .collecting)
    (h : r.StopsAt pre k post) (hk : k.verdict r.rules.catchPanics = .failed f)
    (hrule : r.rules.unwindOnStartupFailure = true)
    (hcalm : r.runStartup.effects.Calm r.rules.catchPanics) :
    r.runStartup =
      let q := r.failedAt pre k post
      ⟨.error (.callbackFailure f (failedReport pre k post f) (q.sweepReport .unwind)),
        { q.swept .unwind ((q.cleanupPlan .unwind).map Hook.handle) with stage := .done },
        r.failedOpening pre k post f ++ (q.sweepOpening .unwind ++
          (Pass.attempted r.rules.catchPanics (q.cleanupPlan .unwind)
            (.skipping .cleanup [])).effects ++ [.tally .durations .cleanup])⟩ :=
  t.runStartup_of_swept hs h hk hrule (unwind_calm hs h hk hrule hcalm)

/-- A startup call whose panics are all caught succeeds as a whole or is aborted. -/
theorem Tables.runStartup_of_calm (t : r.Tables) (hs : r.stage = .collecting)
    (hcalm : r.runStartup.effects.Calm r.rules.catchPanics) :
    (∀ k ∈ r.startup, k.verdict r.rules.catchPanics = .completed) ∨
      ∃ f startup unwind, r.runStartup.answer = .error (.callbackFailure f startup unwind) := by
  rcases startAll_cases r.rules.catchPanics r.startup with
    hall | ⟨pre, k, post, htable, hpre, ⟨f, hk⟩ | ⟨p, hk⟩⟩
  · exact Or.inl hall
  · have hstops : r.StopsAt pre k post := ⟨htable, hpre⟩
    cases hrule : r.rules.unwindOnStartupFailure with
    | false => exact Or.inr ⟨_, _, _, by rw [runStartup_of_abandoned hs hstops hk hrule]⟩
    | true => exact Or.inr ⟨_, _, _, by rw [t.runStartup_of_unwound hs hstops hk hrule hcalm]⟩
  · exact absurd hk (runStartup_calm hs ⟨htable, hpre⟩ hcalm p)

theorem failedOpening_calls (h : ∀ a ∈ pre ++ [k], a.callback.isSome) :
    (r.failedOpening pre k post f).calls.map Prod.fst = (pre ++ [k]).map Hook.handle := by
  have hpass := Pass.attempted_calls_handles r.rules.catchPanics (.skipping .startup post) h
  simp only [failedOpening, List.cons_append, Journal.calls_event, Journal.calls_append,
    Journal.calls_tally, Journal.calls_nil, List.append_nil]
  exact hpass.trans (List.append_nil _)

/-- An unwinding releases the hooks before the failed one and passes over all others. -/
theorem Tables.unwound_report (t : r.Tables) (h : r.StopsAt pre k post)
    (hstarted : r.started = []) :
    ((r.failedAt pre k post).sweepReport .unwind).invoked =
        (r.unwindOrder (pre.map Hook.handle)).map Hook.handle ∧
      ((r.failedAt pre k post).sweepReport .unwind).skipped = (ascending Hook.handle
        (r.cleanup.filter fun a => !a.releasesOneOf (pre.map Hook.handle))).map Hook.handle := by
  have hpre : (r.failedAt pre k post).started = pre.map Hook.handle := by
    simp [Registry.failedAt, startingUp, hstarted]
  constructor
  · simp only [sweepReport, (t.failedAt h).cleanupPlan_unwind, hpre]
    rfl
  · rw [ascending_byAge (t.cleanupByAge.filter _)]
    simp only [sweepReport, ineligible, isEligible_unwind, hpre]
    rfl

end

/-- When a startup hook fails, those behind it are passed over, those before it are released,
and the registry is done. -/
theorem runStartup_aborted (rules : HookRules) (ops : List Op) {pre post : List Hook} {k : Hook}
    {message : String} (hcollecting : ((new rules).run ops).stage = .collecting)
    (htable : ((new rules).run ops).startup = pre ++ k :: post)
    (hfirst : ∀ a ∈ pre, ∀ m, ¬a.Fails rules.catchPanics m)
    (hfails : k.Fails rules.catchPanics message)
    (hcalm : ((new rules).run ops).runStartup.effects.Calm rules.catchPanics) :
    let r := (new rules).run ops
    ∃ unwind,
      r.runStartup.answer = .error (.callbackFailure (.ofHook k message)
        { phase := .startup
          invoked := (pre ++ [k]).map Hook.handle
          completed := pre.map Hook.handle
          skipped := post.map Hook.handle
          failures := [.ofHook k message] }
        unwind) ∧
      r.runStartup.effects.calls.map Prod.fst =
        (pre ++ [k]).map Hook.handle ++ unwind.invoked ∧
      r.runStartup.state.stage = .done ∧
      if rules.unwindOnStartupFailure then
        unwind.invoked = (r.unwindOrder (pre.map Hook.handle)).map Hook.handle ∧
        unwind.skipped = (ascending Hook.handle
          (r.cleanup.filter fun a => !a.releasesOneOf (pre.map Hook.handle))).map Hook.handle
      else
        unwind.invoked = [] ∧
        unwind.skipped = (ascending Hook.handle r.cleanup).map Hook.handle := by
  intro r
  have sound : r.Sound := sound_run rules ops
  have hrules : r.rules = rules := run_rules rules ops
  change r.runStartup.effects.Calm rules.catchPanics at hcalm
  rw [← hrules] at hfirst hfails hcalm ⊢
  obtain ⟨hpending, _, hstarted⟩ := sound.situation.of_collecting hcollecting
  have hholding : ∀ a ∈ r.hooks, a.callback.isSome :=
    fun a ha => sound.holding ha (hpending a ha)
  have hup : ∀ a ∈ r.startup, a.callback.isSome := fun a ha =>
    hholding a (mem_hooks.mpr (Or.inl ha))
  have hstops : r.StopsAt pre k post := stopsAt_of_calm hcollecting htable hup hfirst hcalm
  have hk := (Hook.fails_iff hfails.isSome).mp hfails
  have hcalled : ∀ a ∈ pre ++ [k], a.callback.isSome := by
    intro a ha
    apply hup a
    rw [hstops.table, List.append_cons]
    exact List.mem_append_left _ ha
  cases hrule : r.rules.unwindOnStartupFailure with
  | false =>
    rw [runStartup_of_abandoned hcollecting hstops hk hrule]
    refine ⟨_, rfl, ?_, rfl, ?_⟩
    · simp [failedOpening_calls hcalled, PassReport.empty]
    · exact ⟨rfl, by rw [ascending_byAge sound.cleanupByAge]⟩
  | true =>
    obtain ⟨hinvoked, hskipped⟩ := sound.unwound_report hstops hstarted
    have hdown : ∀ a ∈ (r.failedAt pre k post).cleanupPlan .unwind, a.callback.isSome := by
      intro a ha
      exact hholding a (mem_hooks_of_mem (mem_hooks_of_plan (r := r.failedAt pre k post) ha))
    rw [sound.runStartup_of_unwound hcollecting hstops hk hrule hcalm]
    refine ⟨_, rfl, ?_, rfl, ?_⟩
    · simp [failedOpening_calls hcalled, Pass.attempted_calls_handles _ _ hdown, Pass.skipping,
        sweepReport]
    · exact ⟨hinvoked, hskipped⟩

/-- The third hook to start panics; what releases the first two has its own troubles. -/
def brokenOps : List Op :=
  let hook (role : Role) (priority : Option Int) (o : Outcome) : Op :=
    .register ⟨role, none, none, priority, some ⟨none, [], o⟩⟩
  [hook .startup (some 5) .ok, hook .startup none .ok,
    hook .startup (some 9) (.panic (.text "lost")), hook (.releasing 1) none .ok,
    hook (.releasing 2) none (.error "stuck"),
    hook (.releasing 1) (some 3) .ok, hook (.releasing 3) none .ok, hook .cleanup (some (-1)) .ok,
    hook .startup (some 9) .ok, hook (.releasing 1) none .ok]

theorem runStartup_aborted_broken :
    ∃ failure startup unwind,
      ((new {}).run brokenOps).runStartup.answer =
        .error (.callbackFailure failure startup unwind) ∧
      failure.message = "panicked: lost" ∧ startup.invoked = [2, 1, 3] ∧ startup.skipped = [9] ∧
      unwind.invoked = [6, 10, 4, 5] ∧ unwind.skipped = [7, 8] := by
  let table := ((new {}).run brokenOps).startup
  have hfirst : ∀ a ∈ table.take 2, ∀ m, ¬a.Fails true m := by
    have hok : ∀ a ∈ table.take 2, a.callback.map Callback.outcome = some .ok := by decide
    rintro a ha m ⟨c, hc, ho⟩
    have := hok a ha
    rcases ho with ho | ⟨_, p, ho, _⟩ <;> simp [hc, ho] at this
  let third := table.get ⟨2, by decide⟩
  have htable : table = table.take 2 ++ third :: table.drop 3 := by decide
  have hfails : third.Fails true "panicked: lost" := ⟨_, rfl, Or.inr ⟨rfl, _, rfl, rfl⟩⟩
  obtain ⟨unwind, hanswer, _, _, hinvoked, hskipped⟩ :=
    runStartup_aborted {} brokenOps (by decide) htable hfirst hfails fun _ _ _ _ => rfl
  exact ⟨_, _, unwind, hanswer, rfl, by decide, by decide, hinvoked.trans (by decide),
    hskipped.trans (by decide)⟩

end Registry
end Bookend

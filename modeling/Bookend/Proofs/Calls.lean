import Bookend.Proofs.Attempts
import Bookend.Proofs.Enrolment
import Bookend.Proofs.Unwind

namespace Bookend

/-- The calls that come of trying the hooks `ks` in order. -/
def callsOf (ks : List Hook) : List (Handle × Callback) :=
  ks.filterMap fun k => k.callback.map fun c => (k.handle, c)

/-- The failures that come of trying the hooks `ks` in order. -/
def failuresOf (catching : Bool) (ks : List Hook) : List Failure :=
  ks.filterMap fun k => (k.verdict catching).failure?

/-- Where a call leaves its hook depends on how the callback ended and on nothing else. -/
def Outcome.status (catching : Bool) (o : Outcome) : Status :=
  match o.under catching with
  | .ok => .completed
  | .error _ => .failed
  | .panic _ => .running

namespace Ending

/-- All failures that an answer reports, in the order in which they happened. -/
def failures : Ending Answer → List Failure
  | .value (.report r) => r.failures
  | .error (.callbackFailure _ startup unwind) => startup.failures ++ unwind.failures
  | _ => []

/-- All hooks that an answer reports as called, in the order of the calls. -/
def invoked : Ending Answer → List Handle
  | .value (.report r) => r.invoked
  | .error (.callbackFailure _ startup unwind) => startup.invoked ++ unwind.invoked
  | _ => []

/-- The answer reports the attempts at `ks` and no others, unless a panic came in its place. -/
def Reports (catching : Bool) (ks : List Hook) (a : Ending Answer) : Prop :=
  (∀ p, a ≠ .panic p) → a.invoked = ks.map Hook.handle ∧ a.failures = failuresOf catching ks

theorem map_eq_error {f : α → β} {a : Ending α} {e : Error} :
    a.map f = .error e ↔ a = .error e := by
  cases a <;> simp [map]

theorem map_eq_panic {f : α → β} {a : Ending α} {p : Payload} :
    a.map f = .panic p ↔ a = .panic p := by
  cases a <;> simp [map]

end Ending

section
variable {b : Bool} {k : Hook} {ks ls : List Hook}

@[simp] theorem callsOf_nil : callsOf [] = [] := rfl

@[simp] theorem callsOf_append : callsOf (ks ++ ls) = callsOf ks ++ callsOf ls :=
  List.filterMap_append

theorem mem_callsOf {e : Handle × Callback} :
    e ∈ callsOf ks ↔ ∃ k ∈ ks, k.handle = e.1 ∧ k.callback = some e.2 := by
  constructor
  · intro he
    obtain ⟨k, hk, hm⟩ := List.mem_filterMap.mp he
    obtain ⟨c, hc, rfl⟩ := Option.map_eq_some_iff.mp hm
    exact ⟨k, hk, rfl, hc⟩
  · rintro ⟨k, hk, hh, hc⟩
    refine List.mem_filterMap.mpr ⟨k, hk, ?_⟩
    simp [hh, hc]

theorem callsOf_handles_sublist (ks : List Hook) :
    ((callsOf ks).map Prod.fst).Sublist (ks.map Hook.handle) := by
  induction ks with
  | nil => exact List.Sublist.slnil
  | cons k ks ih =>
    cases hc : k.callback with
    | none => simpa [callsOf, hc] using ih.cons k.handle
    | some c => simpa [callsOf, hc] using ih.cons_cons k.handle

@[simp] theorem failuresOf_nil (b : Bool) : failuresOf b [] = [] := rfl

@[simp] theorem failuresOf_append : failuresOf b (ks ++ ls) = failuresOf b ks ++ failuresOf b ls :=
  List.filterMap_append

theorem failuresOf_completed (h : ∀ k ∈ ks, k.verdict b = .completed) : failuresOf b ks = [] :=
  List.filterMap_eq_nil_iff.mpr fun k hk => by simp [h k hk, Verdict.failure?]

theorem failuresOf_failed {f : Failure} (h : k.verdict b = .failed f) : failuresOf b [k] = [f] := by
  simp [failuresOf, h, Verdict.failure?]

theorem mem_failuresOf {f : Failure} : f ∈ failuresOf b ks ↔ ∃ k ∈ ks, k.verdict b = .failed f := by
  have hkeeps (v : Verdict) : v.failure? = some f ↔ v = .failed f := by
    cases v <;> simp [Verdict.failure?]
  simp only [failuresOf, List.mem_filterMap, hkeeps]

theorem Hook.tried_status_eq {c : Callback} (h : k.callback = some c) :
    (k.tried b).status = c.outcome.status b := by
  rw [tried_status]
  cases ho : c.outcome.under b <;> simp [verdict, invoke, h, ho, Verdict.status, Outcome.status]

theorem Outcome.status_called (b : Bool) (o : Outcome) : (o.status b).Called := by
  unfold status
  split
  · exact Or.inr (Or.inl rfl)
  · exact Or.inr (Or.inr rfl)
  · exact Or.inl rfl

theorem Pass.attempted_callsOf (b : Bool) (ks : List Hook) (rest : Pass) :
    (attempted b ks rest).effects.calls = callsOf ks ++ rest.effects.calls :=
  attempted_calls b ks rest

end

namespace Registry

/-- The hooks `ks` of `r` are those that a step tried, in order. Any other hook is at most passed
over. -/
structure Tries (r : Registry) (ks : List Hook) (t : Turn Registry α) : Prop where
  known : ∀ k ∈ ks, k ∈ r.hooks
  once : (ks.map Hook.handle).Nodup
  calls : t.effects.calls = callsOf ks
  tried : ∀ k ∈ ks, k.tried r.rules.catchPanics ∈ t.state.hooks
  others : ∀ k ∈ r.hooks, k ∉ ks → k ∈ t.state.hooks ∨ k.skip ∈ t.state.hooks

variable {r : Registry}

theorem Tries.none {t : Turn Registry α} (h : t.effects.calls = [])
    (hothers : ∀ k ∈ r.hooks, k ∈ t.state.hooks ∨ k.skip ∈ t.state.hooks) : r.Tries [] t :=
  ⟨by simp, by simp, h, by simp, fun k hk _ => hothers k hk⟩

/-- Only the calls that a step left and its tables count. -/
theorem Tries.recast {ks : List Hook} {t : Turn Registry α} {u : Turn Registry β}
    (h : r.Tries ks t) (hcalls : u.effects.calls = t.effects.calls)
    (hhooks : u.state.hooks = t.state.hooks) : r.Tries ks u where
  known := h.known
  once := h.once
  calls := hcalls.trans h.calls
  tried := hhooks ▸ h.tried
  others := hhooks ▸ h.others

/-- Outside its own stage a call is refused, and nothing comes of it. -/
theorem perform_refused {op : Op} (h : r.stage ≠ op.action.stage) :
    r.perform op = .still r (.error (.invalidPhase op.action r.stage)) := by
  have hrefusal : r.refusal? op.action = some (.invalidPhase op.action r.stage) := if_neg h
  cases op with
  | register s =>
    simp only [Op.action] at hrefusal
    simp only [perform, register, vet, hrefusal]
    rfl
  | atExit name c =>
    simp only [Op.action] at hrefusal
    simp only [perform, addAtExit, hrefusal]
    rfl
  | runStartup =>
    simp only [Op.action] at hrefusal
    simp only [perform, runStartup, hrefusal]
    rfl
  | runCleanup =>
    simp only [Op.action] at hrefusal
    simp only [perform, runCleanup, hrefusal]
    rfl

/-- A sweep leaves in its tables what it made of a hook of its plan. -/
theorem mem_swept_of_plan {w : Sweep} {called : List Handle} {k : Hook} (hk : k ∈ r.cleanupPlan w)
    (hc : k.handle ∈ called) : k.tried r.rules.catchPanics ∈ (r.swept w called).hooks := by
  have hself : k.settle r.rules.catchPanics called = k.tried r.rules.catchPanics := if_pos hc
  rw [← hself, mem_hooks]
  rcases mem_cleanupPlan.mp hk with ⟨_, hk⟩ | ⟨hk, he⟩
  · exact Or.inr (Or.inr (List.mem_map_of_mem hk))
  · exact Or.inr (Or.inl (List.mem_map.mpr ⟨k, hk, if_pos he⟩))

/-- A sweep passes over the hooks outside its plan, and leaves those that it did not come to. -/
theorem Tables.mem_swept_of_other (t : r.Tables) {w : Sweep} {done : List Hook} {k : Hook}
    (hdone : ∀ a ∈ done, a ∈ r.hooks) (hk : k ∈ r.hooks) (hout : k ∉ done) :
    k ∈ (r.swept w (done.map Hook.handle)).hooks ∨
      k.skip ∈ (r.swept w (done.map Hook.handle)).hooks := by
  have hself : k.settle r.rules.catchPanics (done.map Hook.handle) = k := by
    refine if_neg fun hm => ?_
    obtain ⟨a, ha, he⟩ := List.mem_map.mp hm
    exact hout (t.handle_inj (hdone a ha) hk he ▸ ha)
  rcases mem_hooks.mp hk with hk | hk | hk
  · exact Or.inl (mem_hooks.mpr (Or.inl hk))
  · by_cases he : r.isEligible w k = true
    · exact Or.inl (mem_hooks.mpr (Or.inr (Or.inl (List.mem_map.mpr ⟨k, hk, by simp [he, hself]⟩))))
    · exact Or.inr (mem_hooks.mpr (Or.inr (Or.inl (List.mem_map.mpr ⟨k, hk, if_neg he⟩))))
  · exact Or.inl (mem_hooks.mpr (Or.inr (Or.inr (List.mem_map.mpr ⟨k, hk, hself⟩))))

theorem Tables.tries_drain (t : r.Tables) {w : Sweep} {done : List Hook}
    (hfirst : done <+: r.cleanupPlan w)
    (hstate : (r.drain w).state = r.swept w (done.map Hook.handle))
    (hcalls : (r.drain w).effects.calls = callsOf done) : r.Tries done (r.drain w) where
  known := fun _ hk => mem_hooks_of_mem (mem_hooks_of_plan (hfirst.subset hk))
  once := (t.plan_nodup w).sublist (hfirst.sublist.map Hook.handle)
  calls := hcalls
  tried := by
    intro k hk
    rw [hstate]
    exact mem_swept_of_plan (hfirst.subset hk) (List.mem_map_of_mem hk)
  others := by
    intro k hk hout
    rw [hstate]
    exact t.mem_swept_of_other
      (fun a ha => mem_hooks_of_mem (mem_hooks_of_plan (hfirst.subset ha))) hk hout

/-- A sweep tries its plan from the front, all of it unless a panic leaves it. -/
theorem Tables.drain_tries (t : r.Tables) (w : Sweep) :
    let done := drainAttempts r.rules.catchPanics (r.cleanupPlan w)
    r.Tries done (r.drain w) ∧
      ∀ report, (r.drain w).answer = .ok report →
        report.invoked = done.map Hook.handle ∧
          report.failures = failuresOf r.rules.catchPanics done := by
  have hfirst := drainAttempts_first r.rules.catchPanics (r.cleanupPlan w)
  rcases drainAll_cases r.rules.catchPanics (r.cleanupPlan w) with
    hcalm | ⟨pre, k, post, p, hplan, hpre, hk⟩
  · have hdrain := t.drain_of_calm hcalm
    rw [drainAttempts_of_calm hcalm] at hfirst ⊢
    refine ⟨t.tries_drain hfirst (by rw [hdrain]) ?_, ?_⟩
    · simp [hdrain, Pass.attempted_callsOf, Pass.skipping]
    · intro report ha
      rw [hdrain] at ha
      cases ha
      exact ⟨rfl, rfl⟩
  · have hdrain := t.drain_of_panicked hplan hpre hk
    have hcame := drainAttempts_of_panicked post hpre hk
    rw [← hplan] at hcame
    rw [hcame] at hfirst ⊢
    refine ⟨t.tries_drain hfirst (by rw [hdrain]) ?_, ?_⟩
    · simp [hdrain, Pass.attempted_callsOf, Pass.cut]
    · intro report ha
      rw [hdrain] at ha
      cases ha

theorem drain_startup (r : Registry) (w : Sweep) : (r.drain w).state.startup = r.startup := by
  simp only [drain]
  split <;> rfl

theorem mem_of_unwindAttempts {k : Hook} (hk : k ∈ r.unwindAttempts) :
    k ∈ r.cleanup ++ r.atExit := by
  unfold unwindAttempts at hk
  split at hk
  · exact mem_hooks_of_plan ((drainAttempts_first _ _).subset hk)
  · cases hk

/-- An unwinding adds its failures to those of startup. -/
theorem Tables.unwind_tries (t : r.Tables) (f : Failure) (startup : PassReport) :
    let done := r.unwindAttempts
    let u := r.unwind f startup
    r.Tries done u ∧ u.state.startup = r.startup ∧
      ((∀ p, u.answer ≠ .panic p) →
        (u.answer.map .report).invoked = startup.invoked ++ done.map Hook.handle ∧
          (u.answer.map .report).failures =
            startup.failures ++ failuresOf r.rules.catchPanics done) := by
  cases hrule : r.rules.unwindOnStartupFailure with
  | false =>
    have hdone : r.unwindAttempts = [] := by simp [unwindAttempts, hrule]
    rw [unwind_of_abandoned f startup hrule, hdone]
    refine ⟨.none rfl fun k hk => ?_, rfl, fun _ => ⟨rfl, rfl⟩⟩
    rcases mem_hooks.mp hk with hk | hk | hk
    · exact Or.inl (mem_hooks.mpr (Or.inl hk))
    · exact Or.inr (mem_hooks.mpr (Or.inr (Or.inl (List.mem_map_of_mem hk))))
    · exact Or.inl (mem_hooks.mpr (Or.inr (Or.inr hk)))
  | true =>
    obtain ⟨htries, hreport⟩ := t.drain_tries .unwind
    have hdone : r.unwindAttempts = drainAttempts r.rules.catchPanics (r.cleanupPlan .unwind) := by
      simp [unwindAttempts, hrule]
    rw [hdone]
    cases ha : (r.drain .unwind).answer with
    | ok report =>
      obtain ⟨hinvoked, hfailures⟩ := hreport report ha
      rw [unwind_of_swept f startup hrule ha]
      refine ⟨htries.recast rfl rfl, drain_startup r .unwind, fun _ => ?_⟩
      rw [← hinvoked, ← hfailures]
      exact ⟨rfl, rfl⟩
    | error p =>
      rw [unwind_of_left f startup hrule ha]
      exact ⟨htries.recast rfl rfl, drain_startup r .unwind, fun hnone => absurd rfl (hnone p)⟩

theorem Tables.startup_once (t : r.Tables) {done : List Hook} (h : done <+: r.startup) :
    (done.map Hook.handle).Nodup := by
  have hn := t.nodup
  rw [hooks, List.append_assoc, List.map_append] at hn
  exact (List.nodup_append.mp hn).1.sublist (h.sublist.map Hook.handle)

theorem Tables.once_append (t : r.Tables) {up down : List Hook} (hup : up <+: r.startup)
    (hdown : ∀ k ∈ down, k ∈ r.cleanup ++ r.atExit) (hn : (down.map Hook.handle).Nodup) :
    ((up ++ down).map Hook.handle).Nodup := by
  rw [List.map_append]
  refine (t.startup_once hup).append hn ?_
  intro h hu hd
  obtain ⟨a, ha, rfl⟩ := List.mem_map.mp hu
  obtain ⟨c, hc, he⟩ := List.mem_map.mp hd
  refine t.startup_disjoint (List.mem_map_of_mem (hup.subset ha)) ?_
  rw [← he]
  exact List.mem_map_of_mem (hdown c hc)

section
variable {pre post : List Hook} {k : Hook}

theorem StopsAt.first (h : r.StopsAt pre k post) : pre ++ [k] <+: r.startup :=
  ⟨post, by simp [h.table]⟩

theorem startup_known {up : List Hook} (h : up <+: r.startup) : ∀ k ∈ up, k ∈ r.hooks :=
  fun _ hk => mem_hooks.mpr (Or.inl (h.subset hk))

/-- A startup hook that a stopped pass did not come to stands behind the hook that stopped it. -/
theorem StopsAt.mem_post (h : r.StopsAt pre k post) {a : Hook} (ha : a ∈ r.startup)
    (hout : a ∉ pre ++ [k]) : a ∈ post := by
  rw [h.table, List.append_cons] at ha
  exact (List.mem_append.mp ha).resolve_left hout

/-- A startup that fails tries the hooks up to the failure, then those of the unwinding. -/
theorem Tables.runStartup_tries_failed (t : r.Tables) {f : Failure} (hs : r.stage = .collecting)
    (h : r.StopsAt pre k post) (hk : k.verdict r.rules.catchPanics = .failed f) :
    r.Tries r.startupAttempts r.runStartup ∧
      (r.runStartup.answer.map .report).Reports r.rules.catchPanics r.startupAttempts := by
  obtain ⟨htries, hstartup, hreport⟩ :=
    (t.failedAt h).unwind_tries f (failedReport pre k post f)
  have hdone : ∀ a ∈ (r.failedAt pre k post).unwindAttempts, a ∈ r.cleanup ++ r.atExit :=
    fun a ha => mem_of_unwindAttempts (r := r.failedAt pre k post) ha
  have htable : (r.failedAt pre k post).startup =
      (pre ++ [k]).map (Hook.tried r.rules.catchPanics) ++ post.map Hook.skip := rfl
  rw [runStartup_of_failed hs h hk, startupAttempts_of_failed h hk]
  refine ⟨⟨?_, t.once_append h.first hdone htries.once, ?_, ?_, ?_⟩, ?_⟩
  · exact List.forall_mem_append.mpr
      ⟨startup_known h.first, fun a ha => mem_hooks_of_mem (hdone a ha)⟩
  · rw [callsOf_append, ← htries.calls]
    simp only [List.cons_append, Journal.calls_event, Journal.calls_append, Journal.calls_tally,
      Pass.attempted_callsOf, Pass.skipping, Journal.calls_nil, List.append_nil]
    rfl
  · refine List.forall_mem_append.mpr ⟨fun a ha => mem_hooks.mpr (Or.inl ?_), htries.tried⟩
    exact (hstartup.trans htable) ▸ List.mem_append_left _ (List.mem_map_of_mem ha)
  · intro a ha hout
    obtain ⟨hup, hdown⟩ := not_or.mp (List.mem_append.not.mp hout)
    rcases mem_hooks.mp ha with ha | ha
    · refine Or.inr (mem_hooks.mpr (Or.inl ?_))
      exact (hstartup.trans htable) ▸
        List.mem_append_right _ (List.mem_map_of_mem (h.mem_post ha hup))
    · exact htries.others a (mem_hooks.mpr (Or.inr ha)) hdown
  · intro hnone
    obtain ⟨hinvoked, hfailures⟩ := hreport fun p hp => hnone p (Ending.map_eq_panic.mpr hp)
    refine ⟨hinvoked.trans List.map_append.symm, ?_⟩
    rw [failuresOf_append, failuresOf_append, failuresOf_completed h.completed,
      failuresOf_failed hk]
    exact hfailures

/-- A startup call tries hooks from the front of its table, and behind a failure it may try
cleanup hooks. -/
theorem Tables.runStartup_tries (t : r.Tables) (hs : r.stage = .collecting) :
    r.Tries r.startupAttempts r.runStartup ∧
      (r.runStartup.answer.map .report).Reports r.rules.catchPanics r.startupAttempts := by
  rcases startAll_cases r.rules.catchPanics r.startup with
    hall | ⟨pre, k, post, htable, hpre, ⟨f, hk⟩ | ⟨p, hk⟩⟩
  · have hfirst := List.prefix_refl r.startup
    rw [runStartup_of_completed hs hall, startupAttempts_of_completed hall]
    refine ⟨⟨startup_known hfirst, t.startup_once hfirst, ?_, ?_, ?_⟩, ?_⟩
    · simp [Pass.attempted_callsOf, Pass.skipping]
    · exact fun k hk => mem_hooks.mpr (Or.inl (List.mem_map_of_mem hk))
    · exact fun k hk hout => Or.inl (mem_hooks.mpr (Or.inr ((mem_hooks.mp hk).resolve_left hout)))
    · exact fun _ => ⟨rfl, (failuresOf_completed hall).symm⟩
  · exact t.runStartup_tries_failed hs ⟨htable, hpre⟩ hk
  · have hstops : r.StopsAt pre k post := ⟨htable, hpre⟩
    rw [runStartup_of_panicked hs hstops hk, startupAttempts_of_panicked hstops hk]
    refine ⟨⟨startup_known hstops.first, t.startup_once hstops.first, ?_, ?_, ?_⟩, ?_⟩
    · simp [Pass.attempted_callsOf, Pass.cut]
    · intro a ha
      exact mem_hooks.mpr (Or.inl (List.mem_append_left _ (List.mem_map_of_mem ha)))
    · intro a ha hout
      rcases mem_hooks.mp ha with ha | ha
      · exact Or.inl (mem_hooks.mpr (Or.inl (List.mem_append_right _ (hstops.mem_post ha hout))))
      · exact Or.inl (mem_hooks.mpr (Or.inr ha))
    · exact fun hnone => absurd rfl (hnone p)

end

theorem Tables.runCleanup_tries (t : r.Tables) (hs : r.stage = .ready) :
    let done := drainAttempts r.rules.catchPanics (r.cleanupPlan .full)
    r.Tries done r.runCleanup ∧
      (r.runCleanup.answer.map .report).Reports r.rules.catchPanics done := by
  obtain ⟨htries, hreport⟩ := (t.atStage .cleanupRunning).drain_tries .full
  -- the stage shows neither in the plan nor in the tables
  have hself : r.Tries (drainAttempts r.rules.catchPanics (r.cleanupPlan .full))
      (drain { r with stage := .cleanupRunning } .full) :=
    ⟨htries.known, htries.once, htries.calls, htries.tried, htries.others⟩
  simp only [runCleanup, refusal?_of_stage (a := .runCleanup) hs]
  cases ha : (drain { r with stage := .cleanupRunning } .full).answer with
  | ok report => exact ⟨hself.recast (by simp) rfl, fun _ => hreport report ha⟩
  | error p => exact ⟨hself.recast rfl rfl, fun hnone => absurd rfl (hnone p)⟩

theorem register_calls (r : Registry) (s : Spec) : (r.register s).effects.calls = [] := by
  simp only [register]
  split <;> rfl

theorem addAtExit_calls (r : Registry) (name : String) (c : Callback) :
    (r.addAtExit name c).effects.calls = [] := by
  simp only [addAtExit]
  split <;> rfl

/-- A registration keeps the hooks that there are. -/
theorem register_keeps {k : Hook} (hk : k ∈ r.hooks) (s : Spec) :
    k ∈ (r.perform (.register s)).state.hooks := by
  simp only [perform, Turn.map, register]
  split
  · exact hk
  · exact (hooks_insert_perm r _).mem_iff.mpr (List.mem_cons_of_mem _ hk)

/-- A registration tries nothing, whatever comes of it. -/
theorem register_tries (r : Registry) (s : Spec) : r.Tries [] (r.perform (.register s)) :=
  .none (register_calls r s) fun _ hk => Or.inl (register_keeps hk s)

theorem atExit_tries (r : Registry) (name : String) (c : Callback) :
    r.Tries [] (r.perform (.atExit name c)) := by
  refine .none (addAtExit_calls r name c) fun k hk => Or.inl ?_
  simp only [perform, Turn.map, addAtExit]
  split
  · exact hk
  · exact (hooks_atExit_perm r _).mem_iff.mpr (List.mem_cons_of_mem _ hk)

/-- An answer to a registration reports no hook. -/
theorem register_reports (r : Registry) (s : Spec) (b : Bool) :
    (r.perform (.register s)).answer.Reports b [] := by
  by_cases hs : r.stage = .collecting
  · simp only [perform, Turn.map, register, vet, refusal?_of_stage (a := .register) hs]
    cases s.callback with
    | none => exact fun _ => ⟨rfl, rfl⟩
    | some c =>
      cases s.role.releases with
      | none => exact fun _ => ⟨rfl, rfl⟩
      | some o =>
        simp only
        split
        · rename_i e he
          split at he
          · cases he
          · cases he
            exact fun _ => ⟨rfl, rfl⟩
        · exact fun _ => ⟨rfl, rfl⟩
  · rw [perform_refused hs]
    exact fun _ => ⟨rfl, rfl⟩

theorem atExit_reports (r : Registry) (name : String) (c : Callback) (b : Bool) :
    (r.perform (.atExit name c)).answer.Reports b [] := by
  by_cases hs : r.stage = .ready
  · rw [perform_of_ready hs]
    exact fun _ => ⟨rfl, rfl⟩
  · rw [perform_refused hs]
    exact fun _ => ⟨rfl, rfl⟩

/-- Every call tries certain hooks that are pending, once each, and reports just those. -/
theorem Sound.perform_tries (sound : r.Sound) (op : Op) :
    r.Tries (r.attempts op) (r.perform op) ∧ (∀ k ∈ r.attempts op, k.status = .pending) ∧
      (r.perform op).answer.Reports r.rules.catchPanics (r.attempts op) := by
  by_cases hs : r.stage = op.action.stage
  · cases op with
    | register s => exact ⟨register_tries r s, by simp [attempts], register_reports r s _⟩
    | atExit name c => exact ⟨atExit_tries r name c, by simp [attempts], atExit_reports r name c _⟩
    | runStartup =>
      obtain ⟨htries, hreports⟩ := sound.runStartup_tries hs
      rw [attempts_runStartup hs]
      refine ⟨htries.recast rfl rfl, fun k hk => ?_, hreports⟩
      exact (sound.situation.of_collecting hs).1 k (htries.known k hk)
    | runCleanup =>
      obtain ⟨htries, hreports⟩ := sound.runCleanup_tries hs
      rw [attempts_runCleanup hs]
      refine ⟨htries.recast rfl rfl, fun k hk => ?_, hreports⟩
      exact (sound.situation.of_ready hs).2 k
        (mem_hooks_of_plan ((drainAttempts_first _ _).subset hk))
  · rw [perform_refused hs, attempts_of_refused hs]
    exact ⟨.none rfl fun _ hk => Or.inl hk, by simp, fun _ => ⟨rfl, rfl⟩⟩

/-- A hook that a pass has come to is never touched again. -/
theorem Step.keeps {s : Registry} (h : r.Step s) (sound : r.Sound) {k : Hook} (hk : k ∈ r.hooks)
    (hp : k.status ≠ .pending) : k ∈ s.hooks := by
  have hcollecting (hs : r.stage = .collecting) : k ∈ s.hooks :=
    absurd ((sound.situation.of_collecting hs).1 k hk) hp
  have hready (hs : r.stage = .ready) (hstartup : s.startup = r.startup) : k ∈ s.hooks := by
    rcases mem_hooks.mp hk with hk | hk
    · exact mem_hooks.mpr (Or.inl (hstartup ▸ hk))
    · exact absurd ((sound.situation.of_ready hs).2 k (List.mem_append.mpr hk)) hp
  cases h with
  | refused => exact hk
  | registered stage => exact hcollecting stage
  | handlerAdded stage => exact hready stage rfl
  | started stage => exact hcollecting stage
  | startupLeft stage => exact hcollecting stage
  | unwound stage => exact hcollecting stage
  | unwindLeft stage => exact hcollecting stage
  | abandoned stage => exact hcollecting stage
  | cleaned stage sweep => exact hready stage (by rw [sweep.2]; rfl)
  | cleanupLeft stage sweep =>
    obtain ⟨_, _, _, _, _, _, _, rfl⟩ := sweep
    exact hready stage rfl

theorem Sound.run_retains (sound : r.Sound) (ops : List Op) {k : Hook} (hk : k ∈ r.hooks)
    (hp : k.status ≠ .pending) : k ∈ (r.run ops).hooks :=
  sound.run_keeps (p := fun s => k ∈ s.hooks) hk
    (fun _ op hs hk => (hs.perform_step op).keeps hs hk hp) ops

theorem Sound.perform_status (sound : r.Sound) (op : Op) {e : Handle × Callback}
    (he : e ∈ (r.perform op).effects.calls) :
    ∃ k ∈ (r.perform op).state.hooks, k.handle = e.1 ∧
      k.status = e.2.outcome.status r.rules.catchPanics := by
  obtain ⟨htries, _⟩ := sound.perform_tries op
  rw [htries.calls] at he
  obtain ⟨k, hk, hh, hc⟩ := mem_callsOf.mp he
  exact ⟨_, htries.tried k hk, by simp [hh], Hook.tried_status_eq hc⟩

/-- No call runs a hook twice. -/
theorem Sound.perform_once (sound : r.Sound) (op : Op) :
    ((r.perform op).effects.calls.map Prod.fst).Nodup := by
  obtain ⟨htries, _⟩ := sound.perform_tries op
  rw [htries.calls]
  exact htries.once.sublist (callsOf_handles_sublist _)

/-- A call runs only hooks that were pending. -/
theorem Sound.perform_pending (sound : r.Sound) (op : Op) {h : Handle}
    (hh : h ∈ (r.perform op).effects.calls.map Prod.fst) :
    ∃ k ∈ r.hooks, k.handle = h ∧ k.status = .pending := by
  obtain ⟨htries, hpending, _⟩ := sound.perform_tries op
  rw [htries.calls] at hh
  obtain ⟨k, hk, rfl⟩ := List.mem_map.mp ((callsOf_handles_sublist _).subset hh)
  exact ⟨k, htries.known k hk, rfl, hpending k hk⟩

/-- A hook that is pending after a call was not run by it. -/
theorem Sound.perform_unrun (sound : r.Sound) (op : Op) {k : Hook}
    (hk : k ∈ (r.perform op).state.hooks) (hp : k.status = .pending) :
    k.handle ∉ (r.perform op).effects.calls.map Prod.fst := by
  intro hm
  obtain ⟨e, he, hsame⟩ := List.mem_map.mp hm
  obtain ⟨a, ha, hah, hstatus⟩ := sound.perform_status op he
  have hak : a = k := (sound.perform op).handle_inj ha hk (hah.trans hsame)
  rw [← hak, hstatus] at hp
  exact (Outcome.status_called _ _).not_pending hp

theorem journalOf_calls (ts : List (Turn σ α)) :
    (journalOf ts).calls = ts.flatMap fun t => t.effects.calls := by
  induction ts with
  | nil => rfl
  | cons t ts ih =>
    change Journal.calls (t.effects ++ journalOf ts) = _
    rw [Journal.calls_append, ih, List.flatMap_cons]

theorem journalOf_snoc (r : Registry) (ops : List Op) (op : Op) :
    journalOf (r.trail (ops ++ [op])) =
      journalOf (r.trail ops) ++ ((r.run ops).perform op).effects := by
  rw [trail_append]
  simp [journalOf, trail]

theorem journalOf_trail_append (r : Registry) (ops : List Op) (op : Op) :
    (journalOf (r.trail (ops ++ [op]))).calls =
      (journalOf (r.trail ops)).calls ++ ((r.run ops).perform op).effects.calls := by
  rw [journalOf_snoc, Journal.calls_append]

/-- A called hook ends as its callback did, and stays that way. -/
theorem Sound.trail_status (sound : r.Sound) (ops : List Op) {e : Handle × Callback}
    (he : e ∈ (journalOf (r.trail ops)).calls) :
    ∃ k ∈ (r.run ops).hooks, k.handle = e.1 ∧
      k.status = e.2.outcome.status r.rules.catchPanics := by
  induction ops generalizing r with
  | nil => cases he
  | cons op ops ih =>
    have hnext := sound.perform op
    have hrules := (sound.perform_step op).rules
    rw [trail, journalOf_calls, List.flatMap_cons, ← journalOf_calls] at he
    rcases List.mem_append.mp he with he | he
    · obtain ⟨k, hk, hh, hstatus⟩ := sound.perform_status op he
      have hcalled : k.status.Called := hstatus ▸ e.2.outcome.status_called r.rules.catchPanics
      exact ⟨k, hnext.run_retains ops hk hcalled.not_pending, hh, hstatus⟩
    · obtain ⟨k, hk, hh, hstatus⟩ := ih hnext he
      exact ⟨k, hk, hh, by rw [hstatus, hrules]⟩

theorem Sound.final_status (sound : r.Sound) (ops later : List Op) {e : Handle × Callback}
    (he : e ∈ (journalOf (r.trail ops)).calls) :
    ((r.run ops).run later).status? e.1 = some (e.2.outcome.status r.rules.catchPanics) := by
  obtain ⟨k, hk, hh, hstatus⟩ := sound.trail_status ops he
  have hcalled : k.status.Called := hstatus ▸ e.2.outcome.status_called r.rules.catchPanics
  have hlater := (sound.run ops).run_retains later hk hcalled.not_pending
  rw [← hh, ((sound.run ops).run later).status?_of_mem hlater, hstatus]

theorem Sound.status_of_called (sound : r.Sound) (ops : List Op) (op : Op) (later : List Op)
    {e : Handle × Callback}
    (he : e ∈ (journalOf (r.trail ops)).calls ++ ((r.run ops).perform op).effects.calls) :
    (((r.run ops).perform op).state.run later).status? e.1 =
      some (e.2.outcome.status r.rules.catchPanics) := by
  have hrun : r.run (ops ++ [op]) = ((r.run ops).perform op).state := run_append r ops [op]
  rw [← hrun]
  rw [← journalOf_trail_append] at he
  exact sound.final_status (ops ++ [op]) later he

end Registry
end Bookend

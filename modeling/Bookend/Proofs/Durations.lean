import Bookend.Proofs.Counters

namespace Bookend

/-- A call that was taken, with whether it returned a value, may bring the phase to an end. -/
def Phase.endedBy : Phase → Action × Bool → Bool
  | startup, e => e.1 = .runStartup
  | cleanup, e => e.1 = .runCleanup ∨ e = (.runStartup, false)

/-- In no life is there more than one call that may. -/
theorem Spelled.ended_once {w : List (Action × Bool)} {s : Stage} (h : Spelled w s) (p : Phase) :
    w.countP p.endedBy ≤ 1 := by
  have hconcluded (h : Concluded w) : w.countP p.endedBy ≤ 1 := by
    rcases h with ⟨n, rfl⟩ | ⟨n, m, b, rfl⟩ <;> cases p <;>
      simp [List.countP_replicate, Phase.endedBy]
  cases s with
  | collecting =>
    obtain ⟨n, rfl⟩ := h
    cases p <;> simp [List.countP_replicate, Phase.endedBy]
  | ready =>
    obtain ⟨n, m, rfl⟩ := h
    cases p <;> simp [List.countP_replicate, Phase.endedBy]
  | _ => exact hconcluded h

namespace Registry

/-- The call brought a phase to its end: the startup hooks, if none of them let a panic out, or the
cleanup hooks, if the sweep over them came through, be it that of an unwinding. -/
def EndsPhase (op : Op) (t : Turn Registry (Ending Answer)) : Phase → Prop
  | .startup =>
    op = .runStartup ∧ t.answer.refuses = false ∧
      ∀ c ∈ t.effects.calls, c.1 ∈ t.state.startupOrder →
        ∀ q, c.2.outcome = .panic q → t.state.rules.catchPanics = true
  | .cleanup =>
    op = .runCleanup ∧ t.answer.isValue = true ∨
      op = .runStartup ∧ t.state.rules.unwindOnStartupFailure = true ∧
        ∃ f startup unwind, t.answer = .error (.callbackFailure f startup unwind)

/-- The call records the time that a phase took, once, if it brought it to its end. -/
def Times (op : Op) (t : Turn Registry (Ending Answer)) (p : Phase) : Prop :=
  EndsPhase op t p ∧ t.effects.total .durations p = 1 ∨
    ¬EndsPhase op t p ∧ t.effects.total .durations p = 0

/-- No startup hook that a startup call tries lets a panic out. -/
def StartsCalm (r : Registry) : Prop :=
  ∀ k ∈ r.startupAttempts, k ∈ r.startup → ∀ q, k.verdict r.rules.catchPanics ≠ .panicked q

variable {r : Registry}

theorem attempt_durations (b : Bool) (ks : List Hook) (p : Phase) :
    (attemptEffects b ks).total .durations p = 0 := by
  induction ks with
  | nil => rfl
  | cons k ks ih =>
    rw [attemptEffects_cons, Journal.total_append, ih]
    cases hc : k.callback with
    | none => simp [Hook.invoke, hc]
    | some c => cases ho : c.outcome.under b <;> simp [Hook.invoke, hc, ho, Hook.opening]

/-- A sweep records its time when it comes through. -/
theorem drain_durations (r : Registry) (w : Sweep) (p : Phase) :
    (r.drain w).effects.total .durations p =
      match (r.drain w).answer with
      | .ok _ => if .cleanup = p then 1 else 0
      | .error _ => 0 := by
  have hnone := attempt_durations r.rules.catchPanics
    (drainAttempts r.rules.catchPanics (r.cleanupPlan w)) p
  rw [attemptEffects, ← (drainAll_attempts _ _).2] at hnone
  simp only [drain]
  split <;> simp [hnone]

/-- An unwinding records the time of its sweep and nothing else, and without a sweep nothing. -/
theorem unwind_durations (r : Registry) (f : Failure) (startup : PassReport) :
    let u := r.unwind f startup
    u.effects.total .durations .startup = 0 ∧
      (u.effects.total .durations .cleanup = 1 ∧ r.rules.unwindOnStartupFailure = true ∧
          (∃ report, u.answer = .error (.callbackFailure f startup report)) ∨
        u.effects.total .durations .cleanup = 0 ∧
          (r.rules.unwindOnStartupFailure = false ∨ ∃ q, u.answer = .panic q)) := by
  cases hrule : r.rules.unwindOnStartupFailure with
  | false =>
    rw [unwind_of_abandoned f startup hrule]
    exact ⟨by simp, Or.inr ⟨by simp, Or.inl rfl⟩⟩
  | true =>
    cases ha : (r.drain .unwind).answer with
    | ok report =>
      rw [unwind_of_swept f startup hrule ha]
      exact ⟨by simp [drain_durations, ha], Or.inl ⟨by simp [drain_durations, ha], rfl, _, rfl⟩⟩
    | error q =>
      rw [unwind_of_left f startup hrule ha]
      exact ⟨by simp [drain_durations, ha], Or.inr ⟨by simp [drain_durations, ha], Or.inr ⟨q, rfl⟩⟩⟩

theorem attempted_durations (b : Bool) (ks : List Hook) (rest : Pass) (p : Phase) :
    (Pass.attempted b ks rest).effects.total .durations p = rest.effects.total .durations p := by
  have hself : (Pass.attempted b ks rest).effects = attemptEffects b ks ++ rest.effects := rfl
  rw [hself, Journal.total_append, attempt_durations, Nat.zero_add]

section
variable {pre post : List Hook} {k : Hook}

/-- Whether startup hooks let panics out shows in the calls of a startup pass. -/
theorem Tables.startsCalm_iff (t : r.Tables) (hs : r.stage = .collecting) :
    r.StartsCalm ↔
      ∀ c ∈ r.runStartup.effects.calls, c.1 ∈ r.runStartup.state.startupOrder →
        ∀ q, c.2.outcome = .panic q → r.rules.catchPanics = true := by
  obtain ⟨htries, _⟩ := t.runStartup_tries hs
  have horder : r.runStartup.state.startupOrder = r.startupOrder :=
    (t.runStartup_step.alike (runStartup_next r)).startupOrder
  rw [htries.calls, horder]
  constructor
  · intro hcalm c hc hup q ho
    obtain ⟨k, hk, hh, hcall⟩ := mem_callsOf.mp hc
    obtain ⟨a, ha, hah⟩ := List.mem_map.mp hup
    obtain rfl : a = k :=
      t.handle_inj (mem_hooks.mpr (Or.inl ha)) (htries.known k hk) (hah.trans hh.symm)
    by_contra hb
    refine hcalm a hk ha q ?_
    simp only [Bool.not_eq_true] at hb
    simp [Hook.verdict, Hook.invoke, hcall, Outcome.under_eq_panic.mpr ⟨hb, ho⟩]
  · intro hcaught k hk hup q hv
    obtain ⟨hb, c, hc, ho⟩ := Hook.verdict_panicked hv
    have hm : (k.handle, c) ∈ callsOf r.startupAttempts := mem_callsOf.mpr ⟨k, hk, rfl, hc⟩
    have := hcaught _ hm (List.mem_map_of_mem hup) q ho
    rw [hb] at this
    cases this

theorem Tables.endsPhase_startup (t : r.Tables) (hs : r.stage = .collecting) :
    EndsPhase .runStartup (r.perform .runStartup) .startup ↔ r.StartsCalm := by
  have htaken : (r.perform .runStartup).answer.refuses = false :=
    (perform_refuses r .runStartup).mpr ⟨hs, trivial⟩
  have hrules : r.runStartup.state.rules = r.rules := t.runStartup_step.rules
  rw [t.startsCalm_iff hs, ← hrules]
  exact (and_iff_right rfl).trans (and_iff_right htaken)

theorem Tables.endsPhase_unwind (t : r.Tables) :
    EndsPhase .runStartup (r.perform .runStartup) .cleanup ↔
      r.rules.unwindOnStartupFailure = true ∧
        ∃ f startup unwind, r.runStartup.answer = .error (.callbackFailure f startup unwind) := by
  have hrules : r.runStartup.state.rules = r.rules := t.runStartup_step.rules
  simp [EndsPhase, perform, Turn.map, hrules, Ending.map_eq_error]

theorem endsPhase_runCleanup (p : Phase) :
    EndsPhase .runCleanup (r.perform .runCleanup) p ↔
      .cleanup = p ∧ r.runCleanup.answer.isValue = true := by
  cases p <;> simp [EndsPhase, perform, Turn.map]

/-- A startup call that all hooks complete records the time of their phase. -/
theorem Tables.times_of_completed (t : r.Tables) (hs : r.stage = .collecting)
    (h : ∀ k ∈ r.startup, k.verdict r.rules.catchPanics = .completed) (p : Phase) :
    Times .runStartup (r.perform .runStartup) p := by
  have hturn := runStartup_of_completed hs h
  have htotal : (r.perform .runStartup).effects.total .durations p =
      if .startup = p then 1 else 0 := by
    change r.runStartup.effects.total .durations p = _
    simp [hturn, attempted_durations, Pass.skipping]
  cases p with
  | startup =>
    have hcalm : r.StartsCalm := fun k _ hup q => by simp [h k hup]
    exact Or.inl ⟨(t.endsPhase_startup hs).mpr hcalm, htotal⟩
  | cleanup =>
    refine Or.inr ⟨?_, htotal⟩
    rw [t.endsPhase_unwind]
    rintro ⟨_, f, startup, unwind, ha⟩
    rw [hturn] at ha
    cases ha

theorem StopsAt.startsCalm (h : r.StopsAt pre k post) (t : r.Tables) {f : Failure}
    (hk : k.verdict r.rules.catchPanics = .failed f) : r.StartsCalm := by
  intro a ha hup q
  rw [startupAttempts_of_failed h hk, List.append_assoc] at ha
  rcases List.mem_append.mp ha with ha | ha
  · simp [h.completed a ha]
  · rcases List.mem_append.mp ha with ha | ha
    · simp [List.mem_singleton.mp ha, hk]
    · -- what an unwinding tries are no startup hooks
      have hdown : a ∈ r.cleanup ++ r.atExit :=
        mem_of_unwindAttempts (r := r.failedAt pre k post) ha
      exact (t.startup_disjoint (List.mem_map_of_mem hup) (List.mem_map_of_mem hdown)).elim

/-- A startup call that a hook fails records that time too, and the time of an unwinding that comes
through. -/
theorem StopsAt.times_of_failed (h : r.StopsAt pre k post) (t : r.Tables) {f : Failure}
    (hs : r.stage = .collecting) (hk : k.verdict r.rules.catchPanics = .failed f) (p : Phase) :
    Times .runStartup (r.perform .runStartup) p := by
  let u := (r.failedAt pre k post).unwind f (failedReport pre k post f)
  have hturn := runStartup_of_failed hs h hk
  have hanswer : r.runStartup.answer = u.answer := by
    rw [hturn]
    rfl
  have htotal (p : Phase) : (r.perform .runStartup).effects.total .durations p =
      u.effects.total .durations p + if .startup = p then 1 else 0 := by
    change r.runStartup.effects.total .durations p = _
    simp [hturn, attempted_durations, Pass.skipping, u, failedReport]
  obtain ⟨hup, hdown⟩ :=
    (r.failedAt pre k post).unwind_durations f (failedReport pre k post f)
  cases p with
  | startup =>
    refine Or.inl ⟨(t.endsPhase_startup hs).mpr (h.startsCalm t hk), ?_⟩
    rw [htotal, hup]
    rfl
  | cleanup =>
    rw [Times, t.endsPhase_unwind, htotal]
    rcases hdown with ⟨hone, hrule, report, ha⟩ | ⟨hnone, hleft⟩
    · exact Or.inl ⟨⟨hrule, f, _, report, hanswer.trans ha⟩, by simp [u, hone]⟩
    · refine Or.inr ⟨?_, by simp [u, hnone]⟩
      rintro ⟨hrule, g, startup, report, ha⟩
      rcases hleft with hoff | ⟨q, hq⟩
      · cases hrule.symm.trans hoff
      · cases ha.symm.trans (hanswer.trans hq)

/-- A startup call that a startup hook leaves by a panic records no time. -/
theorem StopsAt.times_of_panicked (h : r.StopsAt pre k post) (t : r.Tables) {q : Payload}
    (hs : r.stage = .collecting) (hk : k.verdict r.rules.catchPanics = .panicked q) (p : Phase) :
    Times .runStartup (r.perform .runStartup) p := by
  have hturn := runStartup_of_panicked hs h hk
  have htotal : (r.perform .runStartup).effects.total .durations p = 0 := by
    change r.runStartup.effects.total .durations p = 0
    simp [hturn, attempted_durations, Pass.cut]
  refine Or.inr ⟨?_, htotal⟩
  cases p with
  | startup =>
    rw [t.endsPhase_startup hs]
    intro hcalm
    have hin : k ∈ pre ++ [k] := by simp
    rw [← startupAttempts_of_panicked h hk] at hin
    exact hcalm k hin (by simp [h.table]) q hk
  | cleanup =>
    rw [t.endsPhase_unwind]
    rintro ⟨_, f, startup, unwind, ha⟩
    rw [hturn] at ha
    cases ha

theorem Tables.runStartup_times (t : r.Tables) (hs : r.stage = .collecting) (p : Phase) :
    Times .runStartup (r.perform .runStartup) p := by
  rcases startAll_cases r.rules.catchPanics r.startup with
    hall | ⟨pre, k, post, htable, hpre, ⟨f, hk⟩ | ⟨q, hk⟩⟩
  · exact t.times_of_completed hs hall p
  · have hstops : r.StopsAt pre k post := ⟨htable, hpre⟩
    exact hstops.times_of_failed t hs hk p
  · have hstops : r.StopsAt pre k post := ⟨htable, hpre⟩
    exact hstops.times_of_panicked t hs hk p

end

theorem runCleanup_times (hs : r.stage = .ready) (p : Phase) :
    Times .runCleanup (r.perform .runCleanup) p := by
  have htotal : (r.perform .runCleanup).effects.total .durations p =
      if .cleanup = p ∧ r.runCleanup.answer.isValue = true then 1 else 0 := by
    change r.runCleanup.effects.total .durations p = _
    simp only [runCleanup, refusal?_of_stage (a := .runCleanup) hs]
    split <;> simp [drain_durations, *, Ending.isValue]
  rw [Times, htotal, endsPhase_runCleanup]
  split <;> simp [*]

section
variable {op : Op} {t : Turn Registry (Ending Answer)}

theorem not_endsPhase_of_enrols (h : op.action.enrols = true) (p : Phase) : ¬EndsPhase op t p := by
  cases op with
  | register s => cases p <;> simp [EndsPhase]
  | atExit name c => cases p <;> simp [EndsPhase]
  | runStartup => cases h
  | runCleanup => cases h

theorem not_endsPhase_of_refuses (h : t.answer.refuses = true) (p : Phase) :
    ¬EndsPhase op t p := by
  cases p with
  | startup => simp [EndsPhase, h]
  | cleanup =>
    rintro (⟨_, ha⟩ | ⟨_, _, f, startup, unwind, ha⟩)
    · simp [Ending.isValue_of_refuses h] at ha
    · simp [ha, Ending.refuses, Error.isRefusal] at h

theorem Sound.perform_times (sound : r.Sound) (op : Op) (p : Phase) :
    Times op (r.perform op) p := by
  cases hrefuses : (r.perform op).answer.refuses with
  | true =>
    refine Or.inr ⟨not_endsPhase_of_refuses hrefuses p, ?_⟩
    rw [perform_still hrefuses]
    rfl
  | false =>
    obtain ⟨hs, _⟩ := (perform_refuses r op).mp hrefuses
    cases sound.perform_growth op with
    | hook k e action _ _ _ _ effects =>
      exact Or.inr ⟨not_endsPhase_of_enrols (by rw [action]; rfl) p, by simp [effects]⟩
    | handler k e action _ _ _ _ effects =>
      exact Or.inr ⟨not_endsPhase_of_enrols (by rw [action]; rfl) p, by simp [effects]⟩
    | kept idle =>
      cases op with
      | register s => simp [Op.action, Action.enrols, hrefuses] at idle
      | atExit name c => simp [Op.action, Action.enrols, hrefuses] at idle
      | runStartup => exact sound.toTables.runStartup_times hs p
      | runCleanup => exact runCleanup_times hs p

theorem EndsPhase.endedBy {p : Phase} (h : EndsPhase op t p) :
    t.answer.refuses = false ∧ p.endedBy (op.action, t.answer.isValue) = true := by
  cases p with
  | startup =>
    obtain ⟨rfl, htaken, _⟩ := h
    exact ⟨htaken, rfl⟩
  | cleanup =>
    rcases h with ⟨rfl, ha⟩ | ⟨rfl, _, f, startup, unwind, ha⟩
    · refine ⟨?_, rfl⟩
      by_contra hrefuses
      simp [Ending.isValue_of_refuses (by simpa using hrefuses)] at ha
    · rw [ha]
      exact ⟨rfl, rfl⟩

end

/-- The time of a phase is recorded by calls that may bring it to its end. -/
theorem run_durations_le (rules : HookRules) (ops : List Op) (p : Phase) :
    (journalOf ((new rules).trail ops)).total .durations p ≤
      ((new rules).accepted ops).countP p.endedBy := by
  induction ops using List.reverseRecOn with
  | nil => exact Nat.le_refl 0
  | append_singleton ops op ih =>
    rw [journalOf_snoc, Journal.total_append, accepted_append, List.countP_append]
    refine Nat.add_le_add ih ?_
    rcases (sound_run rules ops).perform_times op p with ⟨hends, hone⟩ | ⟨_, hnone⟩
    · obtain ⟨htaken, hby⟩ := hends.endedBy
      rw [hone, accepted_of_taken htaken]
      simp [hby]
    · rw [hnone]
      exact Nat.zero_le _

theorem run_durations_eq_zero (rules : HookRules) (ops : List Op) (p : Phase) :
    (journalOf ((new rules).trail ops)).total .durations p = 0 ↔
      ∀ e ∈ (new rules).history ops, ¬EndsPhase e.1 e.2 p := by
  induction ops using List.reverseRecOn with
  | nil => simp [trail, journalOf]
  | append_singleton ops op ih =>
    rw [journalOf_snoc, Journal.total_append, Nat.add_eq_zero_iff, ih, history_append,
      List.forall_mem_append, history_cons, history_nil, List.forall_mem_singleton]
    rcases (sound_run rules ops).perform_times op p with ⟨hends, hone⟩ | ⟨hnot, hnone⟩
    · simp [hends, hone]
    · simp [hnot, hnone]

/-- What the counters say of a registry can be read off its tables at any time, whatever failed or
panicked on the way; and a phase is timed once, when it comes to its end. -/
theorem run_counters (rules : HookRules) (ops : List Op) (p : Phase) :
    let r := (new rules).run ops
    let j := journalOf ((new rules).trail ops)
    j.total .registered p = r.size p ∧
      j.total .invocations p =
        r.hooks.countP (fun k =>
          k.phase = p ∧ (k.status = .running ∨ k.status = .completed ∨ k.status = .failed)) ∧
      j.total .failures p = r.hooks.countP (fun k => k.phase = p ∧ k.status = .failed) ∧
      j.total .durations p ≤ 1 ∧
      (j.total .durations p = 1 ↔ ∃ e ∈ (new rules).history ops, EndsPhase e.1 e.2 p) := by
  intro r j
  have sound : r.Sound := sound_run rules ops
  have honce : j.total .durations p ≤ 1 :=
    (run_durations_le rules ops p).trans ((spelled_run rules ops).ended_once p)
  refine ⟨?_, ?_, ?_, honce, ?_⟩
  · rw [← sound.shown_registered p]
    exact run_shown rules ops (by decide) p
  · rw [run_shown rules ops (by decide) p]
    exact List.countP_congr fun k _ => by simp [Hook.showsIn, Metric.shows]
  · rw [run_shown rules ops (by decide) p]
    exact List.countP_congr fun k _ => by simp [Hook.showsIn, Metric.shows]
  · have hzero : j.total .durations p = 0 ↔ _ := run_durations_eq_zero rules ops p
    have hone : j.total .durations p = 1 ↔ ¬j.total .durations p = 0 := by lia
    rw [hone, hzero]
    push Not
    rfl

/-- An unwinding that a panic leaves is not timed, and the hook that let it out was still called. -/
example :
    let hook (role : Role) (o : Outcome) : Op :=
      .register ⟨role, none, none, none, some ⟨none, [], o⟩⟩
    let rules : HookRules := { catchPanics := false }
    let j := journalOf ((new rules).trail
      [hook .startup .ok, hook .startup (.error "no disk"), hook (.releasing 1) (.panic .other),
        hook (.releasing 7) .ok, .runStartup, .runCleanup])
    Metric.all.map (fun m => (j.total m .startup, j.total m .cleanup)) =
      [(2, 1), (2, 1), (1, 0), (1, 0)] := by
  decide

end Registry
end Bookend

import Bookend.Proofs.Integrity

namespace Bookend

namespace Journal
variable {i j : Journal} {m : Metric} {p : Phase}

@[simp] theorem total_nil : total [] m p = 0 := rfl

@[simp] theorem total_event (e : Event) : total (.event e :: j) m p = j.total m p := by
  simp [total]

@[simp] theorem total_call (h : Handle) (c : Callback) :
    total (.call h c :: j) m p = j.total m p := by
  simp [total]

@[simp] theorem total_tally (n : Metric) (q : Phase) :
    total (.tally n q :: j) m p = j.total m p + if n = m ∧ q = p then 1 else 0 := by
  simp [total, List.count_cons]

@[simp] theorem total_append : (i ++ j).total m p = i.total m p + j.total m p :=
  List.count_append

@[simp] theorem total_events (f : α → Event) (as : List α) :
    total (as.map fun a => .event (f a)) m p = 0 := by
  induction as with
  | nil => rfl
  | cons a as ih => rw [List.map_cons, total_event, ih]

end Journal

/-- The statuses of the hooks that a metric counts. -/
def Metric.shows : Metric → Status → Bool
  | registered, _ => true
  | invocations, s => s = .running ∨ s = .completed ∨ s = .failed
  | failures, s => s = .failed
  | durations, _ => false

/-- The hook is one of those that a metric counts for a phase. -/
def Hook.showsIn (m : Metric) (p : Phase) (k : Hook) : Bool := k.phase = p && m.shows k.status

/-- A hook that is passed over counts as little as one that is waiting. -/
theorem Metric.shows_skipped (m : Metric) : m.shows .skipped = m.shows .pending := by
  cases m <;> rfl

/-- What the attempts at the hooks `ks` leave, in order. -/
def attemptEffects (catching : Bool) (ks : List Hook) : Journal :=
  ks.flatMap fun k => (k.invoke catching).effects

section
variable {b : Bool} {k : Hook} {ks : List Hook}

theorem attemptEffects_cons (b : Bool) (k : Hook) (ks : List Hook) :
    attemptEffects b (k :: ks) = (k.invoke b).effects ++ attemptEffects b ks :=
  List.flatMap_cons

/-- An attempt is counted as what it makes of the hook. -/
theorem Hook.tried_showsIn (hk : k.status = .pending) (hc : k.callback.isSome) (m : Metric)
    (p : Phase) :
    (if (k.tried b).showsIn m p then 1 else 0) =
      (if k.showsIn m p then 1 else 0) + (k.invoke b).effects.total m p := by
  obtain ⟨c, hc⟩ := Option.isSome_iff_exists.mp hc
  have hphase : (k.tried b).phase = k.phase := by rw [Hook.tried_eq]; rfl
  rw [showsIn, showsIn, hphase, tried_status, hk]
  cases ho : c.outcome.under b <;> cases m <;>
    simp [verdict, invoke, hc, ho, opening, Verdict.status, Metric.shows]

/-- A hook that has just been added counts as added and as nothing else. -/
theorem Hook.pending_showsIn (hk : k.status = .pending) (e : Event) (m : Metric) (p : Phase) :
    (if k.showsIn m p then 1 else 0) =
      Journal.total [.event e, .tally .registered k.phase] m p := by
  rw [showsIn, hk]
  cases m <;> simp [Metric.shows]

theorem attempts_showsIn (hk : ∀ k ∈ ks, k.status = .pending ∧ k.callback.isSome) (m : Metric)
    (p : Phase) :
    (ks.map (Hook.tried b)).countP (Hook.showsIn m p) =
      ks.countP (Hook.showsIn m p) + (attemptEffects b ks).total m p := by
  induction ks with
  | nil => rfl
  | cons k ks ih =>
    obtain ⟨⟨hp, hc⟩, hks⟩ := List.forall_mem_cons.mp hk
    have hself := Hook.tried_showsIn (b := b) hp hc m p
    simp only [List.map_cons, List.countP_cons, attemptEffects_cons, Journal.total_append, ih hks,
      hself]
    lia

end

namespace Registry
variable {r : Registry} {m : Metric} {p : Phase}

/-- How many hooks a metric counts for a phase. -/
def shown (r : Registry) (m : Metric) (p : Phase) : Nat := r.hooks.countP (Hook.showsIn m p)

theorem drain_total (r : Registry) (w : Sweep) (hm : m ≠ .durations) (p : Phase) :
    (r.drain w).effects.total m p =
      (attemptEffects r.rules.catchPanics
        (drainAttempts r.rules.catchPanics (r.cleanupPlan w))).total m p := by
  rw [attemptEffects, ← (drainAll_attempts _ _).2]
  simp only [drain]
  split <;> simp [hm.symm]

theorem unwind_total (r : Registry) (f : Failure) (startup : PassReport) (hm : m ≠ .durations)
    (p : Phase) :
    (r.unwind f startup).effects.total m p =
      (attemptEffects r.rules.catchPanics r.unwindAttempts).total m p := by
  have hrest : (r.unwind f startup).effects.total m p =
      (if r.rules.unwindOnStartupFailure then r.drain .unwind else r.abandon).effects.total m p := by
    simp only [unwind]
    split <;> simp
  rw [hrest, unwindAttempts]
  split
  · exact r.drain_total .unwind hm p
  · rfl

theorem runStartup_total (hs : r.stage = .collecting) (hm : m ≠ .durations) (p : Phase) :
    r.runStartup.effects.total m p =
      (attemptEffects r.rules.catchPanics r.startupAttempts).total m p := by
  have hpass := (startAll_attempts r.rules.catchPanics r.startup).2
  simp only [runStartup, refusal?_of_stage (a := .runStartup) hs, startupAttempts, attemptEffects,
    List.flatMap_append, ← hpass]
  cases (startAll r.rules.catchPanics r.startup).panic with
  | some q => simp
  | none =>
    cases (startAll r.rules.catchPanics r.startup).report.failures with
    | nil => simp [hm.symm]
    | cons f fs => simp [hm.symm, unwind_total, attemptEffects, hm]

theorem runCleanup_total (hs : r.stage = .ready) (hm : m ≠ .durations) (p : Phase) :
    r.runCleanup.effects.total m p =
      (attemptEffects r.rules.catchPanics
        (drainAttempts r.rules.catchPanics (r.cleanupPlan .full))).total m p := by
  have hdrain := drain_total { r with stage := .cleanupRunning } .full hm p
  simp only [runCleanup, refusal?_of_stage (a := .runCleanup) hs]
  refine Eq.trans ?_ hdrain
  split <;> simp

theorem attempts_of_refuses {op : Op} (h : (r.perform op).answer.refuses = true) :
    r.attempts op = [] := by
  cases op with
  | register s => rfl
  | atExit name c => rfl
  | runStartup => exact attempts_of_refused fun hs => by simp [(perform_taken hs trivial).1] at h
  | runCleanup => exact attempts_of_refused fun hs => by simp [(perform_taken hs trivial).1] at h

/-- Apart from the time that a phase took, a pass counts what it attempts. -/
theorem perform_total {op : Op} (hidle : op.action.enrols = false ∨ (r.perform op).answer.refuses)
    (hm : m ≠ .durations) (p : Phase) :
    (r.perform op).effects.total m p =
      (attemptEffects r.rules.catchPanics (r.attempts op)).total m p := by
  cases hrefuses : (r.perform op).answer.refuses with
  | true =>
    rw [perform_still hrefuses, attempts_of_refuses hrefuses]
    rfl
  | false =>
    obtain ⟨hs, _⟩ := (perform_refuses r op).mp hrefuses
    cases op with
    | register s => simp [Op.action, Action.enrols, hrefuses] at hidle
    | atExit name c => simp [Op.action, Action.enrols, hrefuses] at hidle
    | runStartup =>
      rw [attempts_runStartup hs]
      exact runStartup_total hs hm p
    | runCleanup =>
      rw [attempts_runCleanup hs]
      exact runCleanup_total hs hm p

section
variable {s : Registry} {ks : List Hook}

/-- What a call that did not try the hook `k` made of it, when it left the hooks `hooks`. -/
def remnant (hooks : List Hook) (k : Hook) : Hook := if k ∈ hooks then k else k.skip

theorem remnant_handle (hooks : List Hook) (k : Hook) : (remnant hooks k).handle = k.handle := by
  unfold remnant
  split <;> rfl

/-- The hooks that a call tried, and the others. -/
theorem Tries.split {t : Turn Registry α} (h : r.Tries ks t) (tables : r.Tables) :
    (ks ++ r.hooks.filter (· ∉ ks)).Perm r.hooks := by
  have hks : ks.Nodup := List.Nodup.of_map _ h.once
  have hhooks : r.hooks.Nodup := List.Nodup.of_map _ tables.nodup
  have hmine : ks.Perm (r.hooks.filter (· ∈ ks)) := by
    refine (List.perm_ext_iff_of_nodup hks (hhooks.filter _)).mpr fun k => ?_
    simpa using h.known k
  have hparts := List.filter_append_perm (· ∈ ks) r.hooks
  simp only [← decide_not] at hparts
  exact (hmine.append_right _).trans hparts

/-- The tables hold what became of the hooks that a call tried, and of the others. -/
theorem Tries.hooks_perm {t : Turn Registry α} (h : r.Tries ks t) (tables : r.Tables)
    (alike : r.Alike t.state) :
    (ks.map (Hook.tried r.rules.catchPanics) ++
        (r.hooks.filter (· ∉ ks)).map (remnant t.state.hooks)).Perm t.state.hooks := by
  have hhandles : ((ks.map (Hook.tried r.rules.catchPanics) ++
      (r.hooks.filter (· ∉ ks)).map (remnant t.state.hooks)).map Hook.handle).Perm
        (t.state.hooks.map Hook.handle) := by
    rw [alike.handles]
    refine List.Perm.trans (List.Perm.of_eq ?_) ((h.split tables).map Hook.handle)
    simp [Function.comp_def, remnant_handle]
  have hnodup := hhandles.nodup_iff.mpr (alike.tables tables).nodup
  have hlength := hhandles.length_eq
  rw [List.length_map, List.length_map] at hlength
  refine (List.subperm_of_subset (List.Nodup.of_map _ hnodup) ?_).perm_of_length_le hlength.ge
  intro a ha
  rcases List.mem_append.mp ha with ha | ha
  · obtain ⟨k, hk, rfl⟩ := List.mem_map.mp ha
    exact h.tried k hk
  · obtain ⟨k, hk, rfl⟩ := List.mem_map.mp ha
    obtain ⟨hk, hout⟩ := List.mem_filter.mp hk
    unfold remnant
    split
    · assumption
    · exact (h.others k hk (by simpa using hout)).resolve_left ‹_›

/-- A call that adds no hook counts just what it tries. -/
theorem Sound.shown_of_alike (sound : r.Sound) (op : Op) (alike : r.Alike (r.perform op).state)
    (m : Metric) (p : Phase) :
    (r.perform op).state.shown m p =
      r.shown m p + (attemptEffects r.rules.catchPanics (r.attempts op)).total m p := by
  obtain ⟨htries, hpending, _⟩ := sound.perform_tries op
  have hcounted := attempts_showsIn (b := r.rules.catchPanics)
    (fun k hk => ⟨hpending k hk, sound.holding (htries.known k hk) (hpending k hk)⟩) m p
  -- a hook that was not tried is passed over only while it is pending
  have hothers : ∀ k ∈ r.hooks.filter (· ∉ r.attempts op),
      (remnant (r.perform op).state.hooks k).showsIn m p = k.showsIn m p := by
    intro k hk
    unfold remnant
    split
    · rfl
    · rename_i hgone
      have hk := (List.mem_filter.mp hk).1
      have hstatus : k.status = .pending := by
        by_contra hp
        exact hgone ((sound.perform_step op).keeps sound hk hp)
      simp only [Hook.showsIn, Hook.skip_status, hstatus, m.shows_skipped]
      rfl
  have hrest : ((r.hooks.filter (· ∉ r.attempts op)).map
      (remnant (r.perform op).state.hooks)).countP (Hook.showsIn m p) =
        (r.hooks.filter (· ∉ r.attempts op)).countP (Hook.showsIn m p) := by
    rw [List.countP_map]
    exact List.countP_congr fun k hk => by simp [hothers k hk]
  rw [shown, shown, ← (htries.hooks_perm sound.toTables alike).countP_eq,
    ← (htries.split sound.toTables).countP_eq, List.countP_append, List.countP_append, hcounted,
    hrest]
  lia

/-- Every call adds to the counters what it adds to the hooks that they count. -/
theorem Sound.perform_shown (sound : r.Sound) (op : Op) (hm : m ≠ .durations) (p : Phase) :
    (r.perform op).state.shown m p = r.shown m p + (r.perform op).effects.total m p := by
  cases sound.perform_growth op with
  | kept idle _ alike => rw [sound.shown_of_alike op alike, perform_total idle hm]
  | hook k e _ _ _ pending state effects =>
    rw [state, effects, shown, (hooks_insert_perm r k).countP_eq, List.countP_cons,
      Hook.pending_showsIn pending e]
    rfl
  | handler k e _ _ _ pending state effects =>
    rw [state, effects, shown, (hooks_atExit_perm r k).countP_eq, List.countP_cons,
      Hook.pending_showsIn pending e]
    rfl

theorem run_shown (rules : HookRules) (ops : List Op) (hm : m ≠ .durations) (p : Phase) :
    (journalOf ((new rules).trail ops)).total m p = ((new rules).run ops).shown m p := by
  induction ops using List.reverseRecOn with
  | nil => rfl
  | append_singleton ops op ih =>
    have hstep := (sound_run rules ops).perform_shown op hm p
    rw [journalOf_snoc, Journal.total_append, ih, run_append]
    exact hstep.symm

theorem countP_registered {q : Phase} (h : ∀ k ∈ ks, k.phase = q) (p : Phase) :
    ks.countP (Hook.showsIn .registered p) = if q = p then ks.length else 0 := by
  split
  · rename_i hq
    exact List.countP_eq_length.mpr fun k hk => by simp [Hook.showsIn, Metric.shows, h k hk, hq]
  · rename_i hq
    exact List.countP_eq_zero.mpr fun k hk => by simp [Hook.showsIn, h k hk, hq]

theorem Tables.shown_registered (t : r.Tables) (p : Phase) : r.shown .registered p = r.size p := by
  have hup := countP_registered (fun k hk => (t.startup_phase k hk).1) p
  have hdown := countP_registered t.cleanup_phase p
  rw [shown, hooks, List.append_assoc, List.countP_append, hup, hdown]
  cases p <;> simp [size]

end

end Registry

end Bookend

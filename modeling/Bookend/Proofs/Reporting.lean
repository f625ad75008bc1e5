import Bookend.Proofs.Passes

namespace Bookend

/-- The failure tells of the hook that was registered: its name, its module, and how its callback
went. -/
structure Failure.TellsOf (f : Failure) (e : Entry) : Prop where
  handle : f.handle = e.handle
  name : f.name = e.name
  module : f.module = e.spec.module
  phase : f.phase = e.phase
  message : e.outcome? = some (.error f.message) ∨
    ∃ q, e.outcome? = some (.panic q) ∧ f.message = "panicked: " ++ q.describe

/-- A report agrees with the registry `s` that the pass left, and with what was registered. -/
structure PassReport.Agrees (p : PassReport) (s : Registry) (es : List Entry) : Prop where
  completed : p.completed = p.invoked.filter (· ∈ p.completed)
  failed : p.failures.map Failure.handle = p.invoked.filter (· ∉ p.completed)
  once : (p.invoked ++ p.skipped).Nodup
  all : (p.invoked ++ p.skipped).Perm ((s.hooks.filter (·.phase = p.phase)).map Hook.handle)
  statuses : ∀ k ∈ s.hooks, k.phase = p.phase →
    (s.status? k.handle = some .completed ↔ k.handle ∈ p.completed) ∧
      (s.status? k.handle = some .failed ↔ k.handle ∈ p.failures.map Failure.handle) ∧
      (s.status? k.handle = some .skipped ↔ k.handle ∈ p.skipped)
  failures : ∀ f ∈ p.failures, f.phase = p.phase ∧ ∃ e ∈ es, f.TellsOf e

/-- A pass over the hooks `ks` that left the registry `s`: it tried some of them, each of which came
back, and passed over the others. -/
structure Covers (catching : Bool) (ks : List Hook) (s : Registry) (p : PassReport)
    (tried passed : List Hook) : Prop where
  invoked : p.invoked = tried.map Hook.handle
  completed : p.completed = (tried.filter (Hook.verdict catching · = .completed)).map Hook.handle
  skipped : p.skipped = passed.map Hook.handle
  failures : p.failures = failuresOf catching tried
  calm : ∀ k ∈ tried, ∀ q, k.verdict catching ≠ .panicked q
  all : (tried ++ passed).Perm ks
  attempts : ∀ k ∈ tried, k.tried catching ∈ s.hooks
  others : ∀ k ∈ passed, k.skip ∈ s.hooks

section
variable {b : Bool} {ks tried passed : List Hook} {s : Registry} {p : PassReport}

/-- What came back without being completed has failed. -/
theorem failuresOf_handles (h : ∀ k ∈ ks, ∀ q, k.verdict b ≠ .panicked q) :
    (failuresOf b ks).map Failure.handle =
      (ks.filter (Hook.verdict b · ≠ .completed)).map Hook.handle := by
  induction ks with
  | nil => rfl
  | cons k ks ih =>
    obtain ⟨hk, hks⟩ := List.forall_mem_cons.mp h
    have htail := ih hks
    unfold failuresOf at htail ⊢
    cases hv : k.verdict b with
    | completed => simpa [hv, Verdict.failure?] using htail
    | failed f =>
      obtain ⟨m, rfl⟩ := Hook.verdict_failure hv
      simpa [hv, Verdict.failure?, Failure.ofHook] using htail
    | panicked q => exact absurd hv (hk q)

namespace Covers

theorem nodup (h : Covers b ks s p tried passed) (hks : (ks.map Hook.handle).Nodup) :
    ((tried ++ passed).map Hook.handle).Nodup :=
  (h.all.map Hook.handle).nodup_iff.mpr hks

theorem tried_inj (h : Covers b ks s p tried passed) (hks : (ks.map Hook.handle).Nodup)
    {a k : Hook} (ha : a ∈ tried) (hk : k ∈ tried) (he : a.handle = k.handle) : a = k :=
  List.inj_on_of_nodup_map (h.nodup hks) (List.mem_append_left _ ha) (List.mem_append_left _ hk) he

/-- Among the hooks that were tried, the report names those that completed. -/
theorem mem_completed (h : Covers b ks s p tried passed) (hks : (ks.map Hook.handle).Nodup)
    {k : Hook} (hk : k ∈ tried) : k.handle ∈ p.completed ↔ k.verdict b = .completed := by
  rw [h.completed]
  constructor
  · intro hm
    obtain ⟨a, ha, he⟩ := List.mem_map.mp hm
    obtain ⟨ha, hv⟩ := List.mem_filter.mp ha
    rw [← h.tried_inj hks ha hk he]
    exact of_decide_eq_true hv
  · intro hv
    exact List.mem_map_of_mem (List.mem_filter.mpr ⟨hk, decide_eq_true hv⟩)

/-- What was called is split into what completed and what did not, in the order of the calls. -/
theorem split (h : Covers b ks s p tried passed) (hks : (ks.map Hook.handle).Nodup) :
    p.completed = p.invoked.filter (· ∈ p.completed) ∧
      p.failures.map Failure.handle = p.invoked.filter (· ∉ p.completed) := by
  constructor
  · rw [h.invoked, List.filter_map]
    conv_lhs => rw [h.completed]
    congr 1
    refine List.filter_congr fun k hk => ?_
    exact decide_eq_decide.mpr (h.mem_completed hks hk).symm
  · rw [h.invoked, List.filter_map, h.failures, failuresOf_handles h.calm]
    congr 1
    refine List.filter_congr fun k hk => ?_
    exact decide_eq_decide.mpr (h.mem_completed hks hk).symm.not

theorem apart (h : Covers b ks s p tried passed) (hks : (ks.map Hook.handle).Nodup) :
    (p.invoked ++ p.skipped).Nodup := by
  rw [h.invoked, h.skipped, ← List.map_append]
  exact h.nodup hks

/-- Every hook of the phase is found as the pass left it. -/
theorem found (h : Covers b ks s p tried passed) (t : s.Tables) {k : Hook} (hk : k ∈ s.hooks)
    (hin : k.handle ∈ ks.map Hook.handle) :
    (∃ a ∈ tried, k = a.tried b) ∨ ∃ a ∈ passed, k = a.skip := by
  obtain ⟨a, ha, he⟩ := List.mem_map.mp hin
  rcases List.mem_append.mp (h.all.mem_iff.mpr ha) with ha | ha
  · exact Or.inl ⟨a, ha, t.handle_inj hk (h.attempts a ha) (by simp [he])⟩
  · exact Or.inr ⟨a, ha, t.handle_inj hk (h.others a ha) (by simp [he])⟩

theorem status_of_tried (h : Covers b ks s p tried passed) (hks : (ks.map Hook.handle).Nodup)
    {a : Hook} (ha : a ∈ tried) :
    ((a.verdict b).status = .completed ↔ a.handle ∈ p.completed) ∧
      ((a.verdict b).status = .failed ↔ a.handle ∈ p.failures.map Failure.handle) ∧
      ((a.verdict b).status = .skipped ↔ a.handle ∈ p.skipped) := by
  have hinvoked : a.handle ∈ p.invoked := h.invoked ▸ List.mem_map_of_mem ha
  have hskipped : a.handle ∉ p.skipped := fun hm =>
    List.disjoint_of_nodup_append (h.apart hks) hinvoked hm
  have hcompleted := h.mem_completed hks ha
  have hfailed : a.handle ∈ p.failures.map Failure.handle ↔ a.verdict b ≠ .completed := by
    rw [(h.split hks).2, List.mem_filter, decide_eq_true_iff, hcompleted]
    exact and_iff_right hinvoked
  rw [hcompleted, hfailed]
  cases hv : a.verdict b with
  | completed => simp [Verdict.status, hskipped]
  | failed f => simp [Verdict.status, hskipped]
  | panicked q => exact absurd hv (h.calm a ha q)

theorem status_of_passed (h : Covers b ks s p tried passed) (hks : (ks.map Hook.handle).Nodup)
    {a : Hook} (ha : a ∈ passed) :
    a.handle ∉ p.completed ∧ a.handle ∉ p.failures.map Failure.handle ∧ a.handle ∈ p.skipped := by
  have hskipped : a.handle ∈ p.skipped := h.skipped ▸ List.mem_map_of_mem ha
  have hinvoked : a.handle ∉ p.invoked := fun hm =>
    List.disjoint_of_nodup_append (h.apart hks) hm hskipped
  obtain ⟨hcompleted, hfailed⟩ := h.split hks
  rw [hcompleted, hfailed]
  exact ⟨fun hm => hinvoked (List.mem_of_mem_filter hm),
    fun hm => hinvoked (List.mem_of_mem_filter hm), hskipped⟩

/-- A failure tells of the hook that was tried. -/
theorem tellsOf {r : Registry} {es : List Entry} (h : Covers b ks s p tried passed)
    (holds : r.Holds es) (hknown : ∀ k ∈ ks, k ∈ r.hooks ∧ k.status = .pending ∧ k.Held)
    {f : Failure} (hf : f ∈ p.failures) : ∃ e ∈ es, e.hook ∈ ks ∧ f.TellsOf e := by
  rw [h.failures] at hf
  obtain ⟨k, hk, hverdict⟩ := mem_failuresOf.mp hf
  have hin : k ∈ ks := h.all.mem_iff.mp (List.mem_append_left _ hk)
  obtain ⟨hhooks, hpending, hheld⟩ := hknown k hin
  obtain ⟨e, he, rfl⟩ := holds.pending k hhooks hpending
  obtain ⟨m, rfl⟩ := Hook.verdict_failure hverdict
  obtain ⟨c, hc, hcase⟩ := (Hook.fails_iff (hheld.mpr (Or.inl hpending))).mpr hverdict
  have houtcome : e.outcome? = some c.outcome := by
    change e.spec.callback = some c at hc
    simp [Entry.outcome?, hc]
  refine ⟨e, he, hin, rfl, rfl, rfl, rfl, ?_⟩
  rw [houtcome]
  rcases hcase with herror | ⟨_, q, hpanic, hm⟩
  · exact Or.inl (congrArg some herror)
  · exact Or.inr ⟨q, congrArg some hpanic, hm⟩

end Covers
end

namespace Registry
variable {r s : Registry} {op : Op} {p : PassReport} {es : List Entry} {tried passed : List Hook}

theorem Alike.phase_handles (h : r.Alike s) (t : r.Tables) (p : Phase) :
    (s.hooks.filter (·.phase = p)).map Hook.handle = (r.ofPhase p).map Hook.handle := by
  rw [(h.tables t).filter_phase]
  cases p with
  | startup => exact h.startupOrder
  | cleanup => simp only [ofPhase, List.map_append, h.cleanupHandles, h.atExitHandles]

theorem Tables.phase_nodup (t : r.Tables) (p : Phase) : ((r.ofPhase p).map Hook.handle).Nodup := by
  rw [← t.filter_phase]
  exact t.nodup.sublist (List.filter_sublist.map _)

/-- A pass over all hooks of a phase that were still to be called agrees with what it left. -/
theorem Sound.agrees (sound : r.Sound) (holds : r.Holds es) (alike : r.Alike s)
    (h : Covers r.rules.catchPanics (r.ofPhase p.phase) s p tried passed)
    (hpending : ∀ k ∈ r.ofPhase p.phase, k.status = .pending) : p.Agrees s es := by
  have tables : s.Tables := alike.tables sound.toTables
  have hks := sound.toTables.phase_nodup p.phase
  obtain ⟨hcompleted, hfailed⟩ := h.split hks
  refine ⟨hcompleted, hfailed, h.apart hks, ?_, fun k hk hphase => ?_, fun f hf => ?_⟩
  · rw [alike.phase_handles sound.toTables, h.invoked, h.skipped, ← List.map_append]
    exact h.all.map Hook.handle
  · have hin : k.handle ∈ (r.ofPhase p.phase).map Hook.handle := by
      rw [← alike.phase_handles sound.toTables]
      exact List.mem_map_of_mem (List.mem_filter.mpr ⟨hk, decide_eq_true hphase⟩)
    rw [tables.status?_of_mem hk]
    rcases h.found tables hk hin with ⟨a, ha, rfl⟩ | ⟨a, ha, rfl⟩
    · simpa using h.status_of_tried hks ha
    · simpa using h.status_of_passed hks ha
  · have hknown : ∀ k ∈ r.ofPhase p.phase, k ∈ r.hooks ∧ k.status = .pending ∧ k.Held := by
      intro k hk
      have hin : k ∈ r.hooks := by
        rw [← sound.filter_phase] at hk
        exact List.mem_of_mem_filter hk
      exact ⟨hin, hpending k hk, sound.held k hin⟩
    obtain ⟨e, he, hin, tells⟩ := h.tellsOf holds hknown hf
    refine ⟨?_, e, he, tells⟩
    rw [← sound.filter_phase] at hin
    exact tells.phase.trans (of_decide_eq_true (List.mem_filter.mp hin).2)

section
variable {pre post : List Hook} {k : Hook} {f : Failure} {w : Sweep}

/-- A startup pass that came through tried all its hooks. -/
theorem started_covers (h : ∀ k ∈ r.startup, k.verdict r.rules.catchPanics = .completed)
    (hs : s.startup = r.startup.map (Hook.tried r.rules.catchPanics)) :
    Covers r.rules.catchPanics r.startup s r.startedReport r.startup [] where
  invoked := rfl
  completed := by
    rw [List.filter_eq_self.mpr fun k hk => decide_eq_true (h k hk)]
    rfl
  skipped := rfl
  failures := (failuresOf_completed h).symm
  calm := by
    intro k hk q
    simp [h k hk]
  all := List.Perm.of_eq (List.append_nil _)
  attempts := fun k hk => mem_hooks.mpr (Or.inl (hs ▸ List.mem_map_of_mem hk))
  others := by simp

/-- One that failed tried its hooks up to the failure. -/
theorem StopsAt.covers (h : r.StopsAt pre k post) (hk : k.verdict r.rules.catchPanics = .failed f)
    (hs : s.startup = (r.failedAt pre k post).startup) :
    Covers r.rules.catchPanics r.startup s (failedReport pre k post f) (pre ++ [k]) post where
  invoked := rfl
  completed := by
    have hpre := List.filter_eq_self.mpr fun a ha => decide_eq_true (h.completed a ha)
    simp [failedReport, List.filter_append, hpre, hk]
  skipped := rfl
  failures := by
    rw [failuresOf_append, failuresOf_completed h.completed, failuresOf_failed hk]
    rfl
  calm := by
    refine List.forall_mem_append.mpr ⟨fun a ha q => ?_, List.forall_mem_singleton.mpr fun q => ?_⟩
    · simp [h.completed a ha]
    · simp [hk]
  all := List.Perm.of_eq (by simp [h.table])
  attempts := by
    intro a ha
    exact mem_hooks.mpr (Or.inl (hs ▸ List.mem_append_left _ (List.mem_map_of_mem ha)))
  others := by
    intro a ha
    exact mem_hooks.mpr (Or.inl (hs ▸ List.mem_append_right _ (List.mem_map_of_mem ha)))

/-- What a sweep may call and what it passes over are all there is, handlers included unless there
are none. -/
theorem sweep_all (hw : w = .full ∨ r.atExit = []) :
    (r.cleanupPlan w ++ r.ineligible w).Perm (r.cleanup ++ r.atExit) := by
  have hhandlers : (if w = .full then r.atExit else []) = r.atExit := by
    rcases hw with hw | hw <;> simp [hw]
  have hparts := List.filter_append_perm (r.isEligible w) r.cleanup
  have hplan := (cleanupPlan_perm r w).append_right (r.ineligible w)
  rw [candidates, hhandlers, List.append_assoc] at hplan
  exact hplan.trans ((hparts.append_left _).trans List.perm_append_comm)

theorem sweep_covers
    (hcalm : ∀ k ∈ r.cleanupPlan w, ∀ q, k.verdict r.rules.catchPanics ≠ .panicked q)
    (hw : w = .full ∨ r.atExit = []) :
    Covers r.rules.catchPanics (r.cleanup ++ r.atExit) (r.afterSweep w) (r.sweepReport w)
      (r.cleanupPlan w) (r.ineligible w) where
  invoked := rfl
  completed := rfl
  skipped := rfl
  failures := rfl
  calm := hcalm
  all := sweep_all hw
  attempts := fun k hk => mem_swept_of_plan hk (List.mem_map_of_mem hk)
  others := by
    intro k hk
    obtain ⟨hk, hout⟩ := List.mem_filter.mp hk
    refine mem_hooks.mpr (Or.inr (Or.inl (List.mem_map.mpr ⟨k, hk, if_neg ?_⟩)))
    simpa using hout

/-- Without an unwinding every cleanup hook is passed over. -/
theorem abandoned_covers (b : Bool) (hnone : r.atExit = [])
    (hs : s.cleanup = r.cleanup.map Hook.skip) :
    Covers b (r.cleanup ++ r.atExit) s r.abandonedReport [] r.cleanup where
  invoked := rfl
  completed := rfl
  skipped := rfl
  failures := rfl
  calm := by simp
  all := List.Perm.of_eq (by simp [hnone])
  attempts := by simp
  others := fun k hk => mem_hooks.mpr (Or.inr (Or.inl (hs ▸ List.mem_map_of_mem hk)))

end

theorem Returned.agrees {t : Turn Registry (Ending Answer)} (h : r.Returned op t) (sound : r.Sound)
    (holds : r.Holds es) (alike : r.Alike t.state) (hp : p ∈ t.answer.reports) :
    p.Agrees t.state es := by
  cases h with
  | started stage all =>
    obtain rfl := List.mem_singleton.mp hp
    refine sound.agrees holds alike (started_covers all rfl) fun k hk => ?_
    exact (sound.situation.of_collecting stage).1 k (mem_hooks.mpr (Or.inl hk))
  | unwound stage stops failed rule calm =>
    obtain ⟨hpending, hnone, _⟩ := sound.situation.of_collecting stage
    obtain ⟨hup, hdown⟩ := forall_hooks.mp hpending
    rcases List.mem_pair.mp hp with rfl | rfl
    · exact sound.agrees holds alike (stops.covers failed rfl) hup
    · exact sound.agrees holds alike (sweep_covers calm (Or.inr hnone)) hdown
  | abandoned stage stops failed rule =>
    obtain ⟨hpending, hnone, _⟩ := sound.situation.of_collecting stage
    obtain ⟨hup, hdown⟩ := forall_hooks.mp hpending
    rcases List.mem_pair.mp hp with rfl | rfl
    · exact sound.agrees holds alike (stops.covers failed rfl) hup
    · exact sound.agrees holds alike (abandoned_covers _ hnone rfl) hdown
  | cleaned stage calm =>
    obtain rfl := List.mem_singleton.mp hp
    obtain ⟨_, hpending⟩ := sound.situation.of_ready stage
    exact sound.agrees holds alike (sweep_covers calm (Or.inl rfl)) hpending

/-- Every report that a call yields agrees with the registry that the call left. -/
theorem Sound.perform_agrees (sound : r.Sound) (holds : r.Holds es)
    (h : p ∈ (r.perform op).answer.reports) : p.Agrees (r.perform op).state es := by
  have hreturned := sound.toTables.perform_returned h
  refine hreturned.agrees sound holds ?_ h
  rcases sound.toTables.perform_entry op with ⟨_, alike⟩ | ⟨e, hsome, _⟩
  · exact alike
  · rw [enters?_of_idle hreturned.spec?] at hsome
    cases hsome

/-- Which passes an answer reports: startup, cleanup, or a failed startup and what was unwound. -/
theorem Returned.phases {t : Turn Registry (Ending Answer)} (h : r.Returned op t) :
    (∀ p, t.answer = .value (.report p) →
      op = .runStartup ∧ p.phase = .startup ∨ op = .runCleanup ∧ p.phase = .cleanup) ∧
      ∀ f startup unwind, t.answer = .error (.callbackFailure f startup unwind) →
        op = .runStartup ∧ startup.phase = .startup ∧ startup.failures = [f] ∧
          unwind.phase = .cleanup := by
  cases h with
  | started => exact ⟨by rintro _ ⟨⟩; exact Or.inl ⟨rfl, rfl⟩, nofun⟩
  | cleaned => exact ⟨by rintro _ ⟨⟩; exact Or.inr ⟨rfl, rfl⟩, nofun⟩
  | unwound => exact ⟨nofun, by rintro _ _ _ ⟨⟩; exact ⟨rfl, rfl, rfl, rfl⟩⟩
  | abandoned => exact ⟨nofun, by rintro _ _ _ ⟨⟩; exact ⟨rfl, rfl, rfl, rfl⟩⟩

/-- Whatever a startup or a cleanup pass reports, the unwinding of a failed startup included, is
what the tables say after it: the hooks called and those passed over are all hooks of the phase,
their statuses are as reported, and failures tell of the hooks as they were registered. A pass that
its stage admits does report, unless it is left by a panic that nobody catches. -/
theorem run_reports_agree (rules : HookRules) (ops : List Op) (op : Op) :
    let r := (new rules).run ops
    let t := r.perform op
    (∀ p ∈ t.answer.reports, p.Agrees t.state ((new rules).registered ops)) ∧
      (op = .runStartup ∧ r.stage = .collecting ∨ op = .runCleanup ∧ r.stage = .ready →
        t.answer.reports ≠ [] ∨ rules.catchPanics = false ∧ ∃ q, t.answer = .panic q) ∧
      (∀ p, t.answer = .value (.report p) →
        op = .runStartup ∧ p.phase = .startup ∨ op = .runCleanup ∧ p.phase = .cleanup) ∧
      ∀ f startup unwind, t.answer = .error (.callbackFailure f startup unwind) →
        op = .runStartup ∧ startup.phase = .startup ∧ startup.failures = [f] ∧
          unwind.phase = .cleanup := by
  intro r t
  have sound : r.Sound := sound_run rules ops
  have hrules : r.rules = rules := run_rules rules ops
  have returned (h : ∃ p, p ∈ t.answer.reports) : r.Returned op t := by
    obtain ⟨p, hp⟩ := h
    exact sound.toTables.perform_returned hp
  refine ⟨fun p hp => sound.perform_agrees (holds_run rules ops) hp, fun hpass => ?_,
    fun p hp => ?_, fun f startup unwind ha => ?_⟩
  · have hends : r.Returned op t ∨ r.Torn t := by
      rcases hpass with ⟨rfl, hs⟩ | ⟨rfl, hs⟩
      · exact sound.runStartup_ends hs
      · exact sound.runCleanup_ends hs
    rw [Torn, hrules] at hends
    exact hends.imp_left Returned.reports_ne_nil
  · exact (returned ⟨p, by simp [hp, Ending.reports]⟩).phases.1 p hp
  · exact (returned ⟨startup, by simp [ha, Ending.reports]⟩).phases.2 f startup unwind ha

/-- A startup that sends a reason and panics at its second hook, with one more behind it, and a
release that fails. -/
def raggedOps : List Op :=
  [.register ⟨.startup, some "db", some "core", none, some ⟨none, [], .ok⟩⟩,
    .register ⟨.releasing 1, none, some "core", none,
      some ⟨none, [.interrupt, .terminate], .error "stuck"⟩⟩,
    .register ⟨.cleanup, none, none, none, some ⟨none, [], .ok⟩⟩,
    .register ⟨.startup, none, none, none, some ⟨none, [.requested], .panic (.text "boom")⟩⟩,
    .register ⟨.startup, none, none, none, some ⟨none, [], .ok⟩⟩]

theorem run_reports_agree_ragged :
    let t := ((new {}).run raggedOps).perform .runStartup
    ∃ startup unwind, t.answer.reports = [startup, unwind] ∧
      startup.invoked = [1, 4] ∧ startup.skipped = [5] ∧ unwind.invoked = [2] ∧
      unwind.skipped = [3] ∧ startup.Agrees t.state ((new {}).registered raggedOps) ∧
      unwind.Agrees t.state ((new {}).registered raggedOps) := by
  obtain ⟨hagrees, _⟩ := run_reports_agree {} raggedOps .runStartup
  have hreports : (((new {}).run raggedOps).perform .runStartup).answer.reports =
      [⟨.startup, [1, 4], [1], [5], [⟨4, "hook-4", none, .startup, "panicked: boom"⟩]⟩,
        ⟨.cleanup, [2], [], [3], [⟨2, "hook-2", some "core", .cleanup, "stuck"⟩]⟩] := by decide
  rw [hreports] at hagrees
  exact ⟨_, _, hreports, rfl, rfl, rfl, rfl, hagrees _ (by simp), hagrees _ (by simp)⟩

end Registry
end Bookend

import Bookend.Proofs.Situation

namespace Bookend
namespace Registry

theorem forall_hooks {r : Registry} {p : Hook → Prop} :
    (∀ k ∈ r.hooks, p k) ↔ (∀ k ∈ r.startup, p k) ∧ ∀ k ∈ r.cleanup ++ r.atExit, p k := by
  rw [hooks, List.append_assoc, List.forall_mem_append]

theorem insert_frame (r : Registry) (k : Hook) :
    (r.insert k).stage = r.stage ∧ (r.insert k).atExit = r.atExit ∧
      (r.insert k).started = r.started ∧ (r.insert k).rules = r.rules := by
  unfold insert
  split <;> exact ⟨rfl, rfl, rfl, rfl⟩

section
variable {r s : Registry} {pre post : List Hook} {k : Hook}

/-- The hooks of a startup pass that failed: tried up to the failure, passed over from there. -/
theorem StopsAt.failedAt_held (h : r.StopsAt pre k post)
    (hpending : ∀ a ∈ r.startup, a.status = .pending) (hheld : ∀ a ∈ r.startup, a.Held) :
    ∀ a ∈ (r.failedAt pre k post).startup, a.Held := by
  have hpost : ∀ a ∈ post, a ∈ r.startup := by
    intro a ha
    rw [h.table]
    exact List.mem_append_right _ (List.mem_cons_of_mem _ ha)
  intro a ha
  rcases List.mem_append.mp ha with ha | ha
  · obtain ⟨c, _, rfl⟩ := List.mem_map.mp ha
    exact Hook.held_tried _ c
  · obtain ⟨c, hc, rfl⟩ := List.mem_map.mp ha
    exact (hheld c (hpost c hc)).skip (hpending c (hpost c hc))

theorem StopsAt.tried_status (h : r.StopsAt pre k post) :
    ∀ a ∈ pre.map (Hook.tried r.rules.catchPanics), a.status = .completed := by
  intro a ha
  obtain ⟨c, hc, rfl⟩ := List.mem_map.mp ha
  rw [Hook.tried_status, h.completed c hc]
  rfl

theorem StopsAt.failedAt_stopped {f : Failure} (h : r.StopsAt pre k post)
    (hk : k.verdict r.rules.catchPanics = .failed f) (hstarted : r.started = []) :
    (r.failedAt pre k post).Stopped .failed .skipped := by
  refine ⟨pre.map (Hook.tried r.rules.catchPanics), k.tried r.rules.catchPanics,
    post.map Hook.skip, ?_, h.tried_status, ?_, ?_, ?_⟩
  · simp [failedAt, startingUp]
  · rw [Hook.tried_status, hk]
    rfl
  · intro a ha
    obtain ⟨c, _, rfl⟩ := List.mem_map.mp ha
    rfl
  · simp [failedAt, startingUp, hstarted, Function.comp_def]

theorem StopsAt.startupLeft_stopped {p : Payload} (h : r.StopsAt pre k post)
    (hk : k.verdict r.rules.catchPanics = .panicked p) (hstarted : r.started = [])
    (hpending : ∀ a ∈ r.startup, a.status = .pending) :
    (r.startingUp ((pre ++ [k]).map (Hook.tried r.rules.catchPanics) ++ post) pre).Stopped
      .running .pending := by
  refine ⟨pre.map (Hook.tried r.rules.catchPanics), k.tried r.rules.catchPanics, post, ?_,
    h.tried_status, ?_, ?_, ?_⟩
  · simp [startingUp]
  · rw [Hook.tried_status, hk]
    rfl
  · intro a ha
    apply hpending a
    rw [h.table]
    exact List.mem_append_right _ (List.mem_cons_of_mem _ ha)
  · simp [startingUp, hstarted, Function.comp_def]

theorem Step.rules (h : r.Step s) : s.rules = r.rules := by
  cases h with
  | registered => exact (insert_frame r _).2.2.2
  | unwound _ _ _ _ sweep => rw [sweep.2]; rfl
  | unwindLeft _ _ _ _ sweep => obtain ⟨_, _, _, _, _, _, _, rfl⟩ := sweep; rfl
  | cleaned _ sweep => rw [sweep.2]; rfl
  | cleanupLeft _ sweep => obtain ⟨_, _, _, _, _, _, _, rfl⟩ := sweep; rfl
  | _ => rfl

theorem SweepEnds.alike {w : Sweep} (h : r.SweepEnds w s) : r.Alike s := by
  rw [h.2]
  exact swept_alike r w _

theorem SweepLeft.alike {w : Sweep} (h : r.SweepLeft w s) : r.Alike s := by
  obtain ⟨_, _, _, _, _, _, _, rfl⟩ := h
  exact swept_alike r w _

theorem Alike.trans {q : Registry} (h : q.Alike r) (h' : r.Alike s) : q.Alike s :=
  ⟨h'.next.trans h.next, h'.startup.trans h.startup, h'.cleanup.trans h.cleanup,
    h'.atExit.trans h.atExit⟩

theorem Alike.atStage (h : r.Alike s) (stage : Stage) : r.Alike { s with stage := stage } :=
  ⟨h.next, h.startup, h.cleanup, h.atExit⟩

/-- A pass keeps all hooks in their places; a registration adds one, under the next number. -/
theorem Step.grows (h : r.Step s) :
    r.Alike s ∨
      (∃ k, r.stage = .collecting ∧ k.handle = r.next ∧
        (∀ o, k.releases = some o → o ∈ r.startupOrder) ∧ s = r.insert k) ∨
      ∃ k, r.stage = .ready ∧ k.handle = r.next ∧ k.role = .cleanup ∧ k.priority = none ∧
        s = { r with next := r.next + 1, atExit := r.atExit ++ [k] } := by
  have hself (stage : Stage) : r.Alike { r with stage := stage } := ⟨rfl, rfl, rfl, rfl⟩
  cases h with
  | refused => exact Or.inl (hself r.stage)
  | @registered s c stage owner =>
    exact Or.inr (Or.inl ⟨.ofSpec r.next s c, stage, rfl, owner, rfl⟩)
  | handlerAdded stage => exact Or.inr (Or.inr ⟨_, stage, rfl, rfl, rfl, rfl⟩)
  | started =>
    refine Or.inl ((startingUp_alike ?_).atStage .ready)
    simp [Function.comp_def]
  | startupLeft _ stops =>
    refine Or.inl (startingUp_alike ?_)
    simp [stops.table, Function.comp_def]
  | unwound _ stops _ _ sweep =>
    exact Or.inl ((stops.failedAt_alike.trans sweep.alike).atStage .done)
  | unwindLeft _ stops _ _ sweep => exact Or.inl (stops.failedAt_alike.trans sweep.alike)
  | abandoned _ stops =>
    have ha := stops.failedAt_alike
    refine Or.inl ⟨ha.next, ha.startup, ?_, ha.atExit⟩
    simp [Function.comp_def]
  | cleaned _ sweep => exact Or.inl (((hself _).trans sweep.alike).atStage .done)
  | cleanupLeft _ sweep => exact Or.inl ((hself _).trans sweep.alike)

theorem Step.tables (h : r.Step s) (t : r.Tables) : s.Tables := by
  rcases h.grows with alike | ⟨k, _, number, owner, rfl⟩ | ⟨k, _, number, role, priority, rfl⟩
  · exact alike.tables t
  · exact t.insert number owner
  · exact t.insert_atExit number role priority

theorem SweepEnds.held {w : Sweep} (h : r.SweepEnds w s)
    (hheld : ∀ k ∈ r.hooks, k.Held) (hpending : ∀ k ∈ r.cleanup, k.status = .pending) :
    ∀ k ∈ s.hooks, k.Held := by
  obtain ⟨_, rfl⟩ := h
  obtain ⟨hup, hdown⟩ := forall_hooks.mp hheld
  exact forall_hooks.mpr ⟨hup, swept_held hdown hpending⟩

theorem SweepLeft.held {w : Sweep} (h : r.SweepLeft w s)
    (hheld : ∀ k ∈ r.hooks, k.Held) (hpending : ∀ k ∈ r.cleanup, k.status = .pending) :
    ∀ k ∈ s.hooks, k.Held := by
  obtain ⟨_, _, _, _, _, _, _, rfl⟩ := h
  obtain ⟨hup, hdown⟩ := forall_hooks.mp hheld
  exact forall_hooks.mpr ⟨hup, swept_held hdown hpending⟩

theorem forall_hooks_insert {p : Hook → Prop} (hk : p k) (h : ∀ a ∈ r.hooks, p a) :
    ∀ a ∈ (r.insert k).hooks, p a := by
  intro a ha
  rcases List.mem_cons.mp ((hooks_insert_perm r k).mem_iff.mp ha) with rfl | ha
  · exact hk
  · exact h a ha

theorem Step.held (h : r.Step s) (sound : r.Sound) : ∀ k ∈ s.hooks, k.Held := by
  have hcollecting (hs : r.stage = .collecting) := (sound.situation.of_collecting hs).1
  have hready (hs : r.stage = .ready) : ∀ k ∈ r.cleanup, k.status = .pending :=
    fun k hk => (sound.situation.of_ready hs).2 k (List.mem_append_left _ hk)
  obtain ⟨hup, hdown⟩ := forall_hooks.mp sound.held
  cases h with
  | refused => exact sound.held
  | registered => exact forall_hooks_insert (Hook.held_ofSpec _ _ _) sound.held
  | handlerAdded =>
    intro a ha
    rcases List.mem_cons.mp ((hooks_atExit_perm r _).mem_iff.mp ha) with rfl | ha
    · exact Hook.held_ofSpec _ _ _
    · exact sound.held a ha
  | started =>
    refine forall_hooks.mpr ⟨?_, hdown⟩
    exact List.forall_mem_map.mpr fun k _ => Hook.held_tried _ k
  | startupLeft _ stops =>
    refine forall_hooks.mpr ⟨?_, hdown⟩
    refine List.forall_mem_append.mpr ⟨List.forall_mem_map.mpr fun a _ => Hook.held_tried _ a, ?_⟩
    intro a ha
    apply hup a
    rw [stops.table]
    exact List.mem_append_right _ (List.mem_cons_of_mem _ ha)
  | unwound stage stops _ _ sweep =>
    obtain ⟨hpup, hpdown⟩ := forall_hooks.mp (hcollecting stage)
    exact sweep.held (forall_hooks.mpr ⟨stops.failedAt_held hpup hup, hdown⟩)
      fun k hk => hpdown k (List.mem_append_left _ hk)
  | unwindLeft stage stops _ _ sweep =>
    obtain ⟨hpup, hpdown⟩ := forall_hooks.mp (hcollecting stage)
    exact sweep.held (forall_hooks.mpr ⟨stops.failedAt_held hpup hup, hdown⟩)
      fun k hk => hpdown k (List.mem_append_left _ hk)
  | abandoned stage stops =>
    obtain ⟨hpup, hpdown⟩ := forall_hooks.mp (hcollecting stage)
    refine forall_hooks.mpr ⟨stops.failedAt_held hpup hup, List.forall_mem_append.mpr ⟨?_, ?_⟩⟩
    · refine List.forall_mem_map.mpr fun k hk => ?_
      exact (hdown k (List.mem_append_left _ hk)).skip (hpdown k (List.mem_append_left _ hk))
    · exact fun k hk => hdown k (List.mem_append_right _ hk)
  | cleaned stage sweep => exact sweep.held sound.held (hready stage)
  | cleanupLeft stage sweep => exact sweep.held sound.held (hready stage)

/-- Each call leads from one situation to another, along the life of a registry. -/
theorem Step.situation (h : r.Step s) (sound : r.Sound) : s.Situation := by
  cases h with
  | refused => exact sound.situation
  | registered stage =>
    obtain ⟨hpending, hnone, hstarted⟩ := sound.situation.of_collecting stage
    obtain ⟨hs, ha, ht, _⟩ := insert_frame r (.ofSpec r.next _ _)
    exact .collecting (hs.trans stage) (forall_hooks_insert rfl hpending) (ha.trans hnone)
      (ht.trans hstarted)
  | handlerAdded stage =>
    obtain ⟨hup, hpending⟩ := sound.situation.of_ready stage
    refine .ready stage hup ?_
    intro a ha
    rcases List.mem_append.mp ha with ha | ha
    · exact hpending a (List.mem_append_left _ ha)
    · rcases List.mem_append.mp ha with ha | ha
      · exact hpending a (List.mem_append_right _ ha)
      · rw [List.mem_singleton.mp ha]
        rfl
  | started stage all =>
    obtain ⟨hpending, _, hstarted⟩ := sound.situation.of_collecting stage
    refine .ready rfl ⟨?_, ?_⟩ (forall_hooks.mp hpending).2
    · refine List.forall_mem_map.mpr fun k hk => ?_
      rw [Hook.tried_status, all k hk]
      rfl
    · simp [startingUp, hstarted, startupOrder, Function.comp_def]
  | startupLeft stage stops panicked =>
    obtain ⟨hpending, hnone, hstarted⟩ := sound.situation.of_collecting stage
    obtain ⟨hpup, hpdown⟩ := forall_hooks.mp hpending
    exact .startupLeft rfl (stops.startupLeft_stopped panicked hstarted hpup)
      (fun k hk => hpdown k (List.mem_append_left _ hk)) hnone
  | unwound stage stops failed rule sweep =>
    obtain ⟨hpending, hnone, hstarted⟩ := sound.situation.of_collecting stage
    have hsettled := sweep.settled (Or.inr hnone)
    obtain ⟨_, rfl⟩ := sweep
    exact .unwound rfl (stops.failedAt_stopped failed hstarted) rule hsettled
      (by simp [swept, failedAt, startingUp, hnone])
  | unwindLeft stage stops failed rule sweep =>
    obtain ⟨hpending, hnone, hstarted⟩ := sound.situation.of_collecting stage
    have hunsettled := sweep.unsettled (sound.toTables.failedAt stops)
      (forall_hooks.mp hpending).2
    obtain ⟨_, _, _, _, _, _, _, rfl⟩ := sweep
    exact .unwindLeft rfl (stops.failedAt_stopped failed hstarted) rule hunsettled
      (by simp [swept, failedAt, startingUp, hnone])
  | abandoned stage stops failed rule =>
    obtain ⟨_, hnone, hstarted⟩ := sound.situation.of_collecting stage
    refine .abandoned rfl (stops.failedAt_stopped failed hstarted) rule ?_ hnone
    exact List.forall_mem_map.mpr fun k _ => rfl
  | cleaned stage sweep =>
    obtain ⟨hup, _⟩ := sound.situation.of_ready stage
    have hsettled := sweep.settled (Or.inl rfl)
    obtain ⟨_, rfl⟩ := sweep
    exact .finished rfl hup hsettled
  | cleanupLeft stage sweep =>
    obtain ⟨hup, hpending⟩ := sound.situation.of_ready stage
    have hunsettled := sweep.unsettled (sound.toTables.atStage _) hpending
    obtain ⟨_, _, _, _, _, _, _, rfl⟩ := sweep
    exact .cleanupLeft rfl hup hunsettled

theorem Step.sound (h : r.Step s) (sound : r.Sound) : s.Sound :=
  { toTables := h.tables sound.toTables, held := h.held sound, situation := h.situation sound }

theorem Sound.perform (sound : r.Sound) (op : Op) : (r.perform op).state.Sound :=
  (sound.toTables.perform_step op).sound sound

end

/-- What each of a list of calls keeps, the list keeps. -/
theorem run_keeps {p : Registry → Prop} {ops : List Op}
    (hstep : ∀ r, ∀ op ∈ ops, p r → p (r.perform op).state) {r : Registry} (h : p r) :
    p (r.run ops) := by
  induction ops generalizing r with
  | nil => exact h
  | cons op ops ih =>
    have htail : ∀ r, ∀ a ∈ ops, p r → p (r.perform a).state :=
      fun r a ha => hstep r a (List.mem_cons_of_mem _ ha)
    exact ih htail (hstep r op List.mem_cons_self h)

theorem Sound.run {r : Registry} (sound : r.Sound) (ops : List Op) : (r.run ops).Sound :=
  run_keeps (fun _ op _ h => h.perform op) sound

theorem sound_run (rules : HookRules) (ops : List Op) : ((new rules).run ops).Sound :=
  (sound_new rules).run ops

/-- What each call keeps of a sound registry, a list of calls keeps. -/
theorem Sound.run_keeps {p : Registry → Prop} {r : Registry} (sound : r.Sound) (h : p r)
    (hstep : ∀ s op, s.Sound → p s → p (s.perform op).state) (ops : List Op) : p (r.run ops) := by
  have hkeep : (r.run ops).Sound ∧ p (r.run ops) := by
    refine Registry.run_keeps (p := fun s => s.Sound ∧ p s) ?_ ⟨sound, h⟩
    intro s op _ ⟨hs, hp⟩
    exact ⟨hs.perform op, hstep s op hs hp⟩
  exact hkeep.2

theorem Sound.run_rules {r : Registry} (sound : r.Sound) (ops : List Op) :
    (r.run ops).rules = r.rules :=
  sound.run_keeps (p := fun s => s.rules = r.rules) rfl
    (fun _ op hs hrules => (hs.perform_step op).rules.trans hrules) ops

@[simp] theorem run_rules (rules : HookRules) (ops : List Op) :
    ((new rules).run ops).rules = rules :=
  (sound_new rules).run_rules ops

end Registry
end Bookend

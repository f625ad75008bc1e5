import Bookend.Proofs.Stranded

namespace Bookend
namespace Registry

/-- The startup hooks, looked up in running order, stand at `ss`. -/
def Reads (r : Registry) (ss : List Status) : Prop := r.startupOrder.map r.status? = ss.map some

instance (r : Registry) (ss : List Status) : Decidable (r.Reads ss) :=
  inferInstanceAs (Decidable (_ = _))

/-- The startup hooks completed up to one, which stands at `here`, and those behind it stand at
`behind`. -/
def Broken (r : Registry) (here behind : Status) : Prop :=
  ∃ n m, r.Reads (List.replicate n .completed ++ here :: List.replicate m behind)

/-- How many cleanup hooks and handlers are running. -/
def runningDown (r : Registry) : Nat := (r.cleanup ++ r.atExit).countP (·.status = .running)

/-- What a registry shows of its hooks in each stage. -/
def Shape (r : Registry) : Prop :=
  match r.stage with
  | .collecting => (∀ k ∈ r.hooks, k.status = .pending) ∧ r.atExit = [] ∧ r.started = []
  | .startupRunning =>
    r.atExit = [] ∧
      (r.Broken .running .pending ∧ (∀ k ∈ r.cleanup, k.status = .pending) ∨
        r.Broken .failed .skipped ∧ r.rules.unwindOnStartupFailure = true ∧ r.runningDown = 1)
  | .ready =>
    (∀ k ∈ r.startup, k.status = .completed) ∧ ∀ k ∈ r.cleanup ++ r.atExit, k.status = .pending
  | .cleanupRunning => (∀ k ∈ r.startup, k.status = .completed) ∧ r.runningDown = 1
  | .done =>
    (∀ k ∈ r.hooks, k.status ≠ .pending ∧ k.status ≠ .running) ∧
      ((∀ k ∈ r.startup, k.status = .completed) ∨ r.Broken .failed .skipped)

/-- The hooks on record as started are a first part of the startup table: they completed, and
those behind them did not. -/
def OnRecord (r : Registry) : Prop :=
  ∃ pre rest, r.startup = pre ++ rest ∧ (∀ a ∈ pre, a.status = .completed) ∧
    (∀ a ∈ rest, a.status ≠ .completed) ∧ r.started = pre.map Hook.handle

section
variable {r : Registry} {here behind : Status} {w : Sweep}

theorem Tables.reads (t : r.Tables) : r.Reads (r.startup.map Hook.status) := by
  simp only [Reads, startupOrder, List.map_map]
  exact List.map_congr_left fun k hk => t.status?_of_mem (mem_hooks.mpr (Or.inl hk))

theorem Tables.broken (t : r.Tables) (h : r.Stopped here behind) : r.Broken here behind := by
  obtain ⟨pre, k, post, htable, hpre, hk, hpost, _⟩ := h
  have hbefore : pre.map Hook.status = List.replicate pre.length .completed :=
    List.eq_replicate_iff.mpr ⟨List.length_map _, List.forall_mem_map.mpr hpre⟩
  have hbehind : post.map Hook.status = List.replicate post.length behind :=
    List.eq_replicate_iff.mpr ⟨List.length_map _, List.forall_mem_map.mpr hpost⟩
  have hall : r.startup.map Hook.status =
      List.replicate pre.length .completed ++ here :: List.replicate post.length behind := by
    rw [htable, List.map_append, List.map_cons, hbefore, hk, hbehind]
  exact ⟨pre.length, post.length, hall ▸ t.reads⟩

theorem Tables.down_nodup (t : r.Tables) : (r.cleanup ++ r.atExit).Nodup := by
  have hn := List.Nodup.of_map Hook.handle t.nodup
  rw [hooks, List.append_assoc] at hn
  exact (List.nodup_append.mp hn).2.1

/-- The hook that a sweep was left by is the one that runs. -/
theorem Tables.runningDown_of_unsettled (t : r.Tables) (h : r.Unsettled w) : r.runningDown = 1 := by
  obtain ⟨⟨k, hk, hrunning, hunique⟩, _⟩ := h
  have hself : ∀ a ∈ r.cleanup ++ r.atExit,
      decide (a.status = .running) = true ↔ (a == k) = true := by
    intro a ha
    rw [decide_eq_true_iff, beq_iff_eq]
    exact ⟨hunique a ha, fun he => he ▸ hrunning⟩
  calc r.runningDown
    _ = (r.cleanup ++ r.atExit).count k := List.countP_congr hself
    _ = 1 := List.count_eq_one_of_mem t.down_nodup hk

theorem Stopped.startup_rest (h : r.Stopped .failed .skipped) :
    ∀ k ∈ r.startup, k.status ≠ .pending ∧ k.status ≠ .running := by
  obtain ⟨pre, s, post, htable, hpre, hs, hpost, _⟩ := h
  rw [htable]
  refine List.forall_mem_append.mpr ⟨fun k hk => ?_, List.forall_mem_cons.mpr ⟨?_, fun k hk => ?_⟩⟩
  · simp [hpre k hk]
  · simp [hs]
  · simp [hpost k hk]

theorem Settled.down_rest (h : r.Settled w) :
    ∀ k ∈ r.cleanup ++ r.atExit, k.status ≠ .pending ∧ k.status ≠ .running := by
  have hover {s : Status} (hs : s.Over) : s ≠ .pending ∧ s ≠ .running := by
    rcases hs with rfl | rfl <;> simp
  refine List.forall_mem_append.mpr ⟨fun k hk => ?_, fun k hk => hover (h.2 k hk)⟩
  have hsplit := h.1 k hk
  split at hsplit
  · exact hover hsplit
  · simp [hsplit]

/-- Every situation that a registry can be in shows as the shape of its stage. -/
theorem Sound.shape (sound : r.Sound) : r.Shape := by
  have t := sound.toTables
  cases sound.situation with
  | collecting stage pending noHandlers noneStarted =>
    simpa only [Shape, stage] using ⟨pending, noHandlers, noneStarted⟩
  | ready stage up pending => simpa only [Shape, stage] using ⟨up.1, pending⟩
  | startupLeft stage stopped pending noHandlers =>
    simpa only [Shape, stage] using ⟨noHandlers, Or.inl ⟨t.broken stopped, pending⟩⟩
  | unwindLeft stage stopped rule unsettled noHandlers =>
    simpa only [Shape, stage] using
      ⟨noHandlers, Or.inr ⟨t.broken stopped, rule, t.runningDown_of_unsettled unsettled⟩⟩
  | cleanupLeft stage up unsettled =>
    simpa only [Shape, stage] using ⟨up.1, t.runningDown_of_unsettled unsettled⟩
  | finished stage up settled =>
    have hup : ∀ k ∈ r.startup, k.status ≠ .pending ∧ k.status ≠ .running :=
      fun k hk => by simp [up.1 k hk]
    simpa only [Shape, stage] using ⟨forall_hooks.mpr ⟨hup, settled.down_rest⟩, Or.inl up.1⟩
  | unwound stage stopped rule settled noHandlers =>
    simpa only [Shape, stage] using
      ⟨forall_hooks.mpr ⟨stopped.startup_rest, settled.down_rest⟩, Or.inr (t.broken stopped)⟩
  | abandoned stage stopped rule skipped noHandlers =>
    have hdown : ∀ k ∈ r.cleanup ++ r.atExit, k.status ≠ .pending ∧ k.status ≠ .running := by
      rw [noHandlers, List.append_nil]
      exact fun k hk => by simp [skipped k hk]
    simpa only [Shape, stage] using
      ⟨forall_hooks.mpr ⟨stopped.startup_rest, hdown⟩, Or.inr (t.broken stopped)⟩

theorem Up.onRecord (h : r.Up) : r.OnRecord :=
  ⟨r.startup, [], (List.append_nil _).symm, h.1, by simp, h.2⟩

theorem Stopped.onRecord (h : r.Stopped here behind) (hhere : here ≠ .completed)
    (hbehind : behind ≠ .completed) : r.OnRecord := by
  obtain ⟨pre, k, post, htable, hpre, hk, hpost, hstarted⟩ := h
  refine ⟨pre, k :: post, htable, hpre, List.forall_mem_cons.mpr ⟨hk ▸ hhere, ?_⟩, hstarted⟩
  exact fun a ha => hpost a ha ▸ hbehind

theorem Situation.onRecord (h : r.Situation) : r.OnRecord := by
  cases h with
  | collecting _ pending _ noneStarted =>
    refine ⟨[], r.startup, rfl, by simp, fun a ha => ?_, noneStarted⟩
    simp [pending a (mem_hooks.mpr (Or.inl ha))]
  | ready _ up => exact up.onRecord
  | startupLeft _ stopped => exact stopped.onRecord (by decide) (by decide)
  | unwindLeft _ stopped => exact stopped.onRecord (by decide) (by decide)
  | cleanupLeft _ up => exact up.onRecord
  | finished _ up => exact up.onRecord
  | unwound _ stopped => exact stopped.onRecord (by decide) (by decide)
  | abandoned _ stopped => exact stopped.onRecord (by decide) (by decide)

theorem Sound.started_eq (sound : r.Sound) :
    r.started = r.startupOrder.takeWhile (r.status? · = some .completed) ∧
      r.started = r.startupOrder.filter (r.status? · = some .completed) := by
  obtain ⟨pre, rest, htable, hpre, hrest, hstarted⟩ := sound.situation.onRecord
  have hlook : ∀ k ∈ pre ++ rest, r.status? k.handle = some k.status := fun k hk =>
    sound.status?_of_mem (mem_hooks.mpr (Or.inl (htable ▸ hk)))
  have hin : ∀ h ∈ pre.map Hook.handle, r.status? h = some .completed := by
    refine List.forall_mem_map.mpr fun k hk => ?_
    rw [hlook k (List.mem_append_left _ hk), hpre k hk]
  have hout : ∀ h ∈ rest.map Hook.handle, r.status? h ≠ some .completed := by
    refine List.forall_mem_map.mpr fun k hk => ?_
    rw [hlook k (List.mem_append_right _ hk), ne_eq, Option.some.injEq]
    exact hrest k hk
  have hnone : (rest.map Hook.handle).takeWhile (r.status? · = some .completed) = [] := by
    cases hr : rest.map Hook.handle with
    | nil => rfl
    | cons h hs =>
      have hfirst := hout h (by simp [hr])
      simp [hfirst]
  rw [startupOrder, htable, List.map_append, hstarted]
  constructor
  · rw [List.takeWhile_append_of_pos fun h hh => decide_eq_true (hin h hh), hnone, List.append_nil]
  · rw [List.filter_append, List.filter_eq_self.mpr fun h hh => decide_eq_true (hin h hh),
      List.filter_eq_nil_iff.mpr fun h hh => by simpa using hout h hh, List.append_nil]

end

/-- Between any two calls a registry has the shape of its stage, a pass is under way only if a
panic left it, and the hooks on record as started are the completed ones in front. -/
theorem run_shape (rules : HookRules) (ops : List Op) :
    let r := (new rules).run ops
    r.Shape ∧ r.rules = rules ∧ (∀ k ∈ r.hooks, r.status? k.handle = some k.status) ∧
      (r.stage = .startupRunning ∨ r.stage = .cleanupRunning ↔
        ∃ t ∈ (new rules).trail ops, ∃ p, t.answer = .panic p) ∧
      r.started = r.startupOrder.takeWhile (r.status? · = some .completed) ∧
      r.started = r.startupOrder.filter (r.status? · = some .completed) := by
  intro r
  have sound : r.Sound := sound_run rules ops
  have hnew : ¬(new rules).Stranded := by simp [Stranded, new]
  exact ⟨sound.shape, run_rules rules ops, fun k hk => sound.status?_of_mem hk,
    run_stranded hnew ops, sound.started_eq⟩

/-- An unwinding that a panic left is under way in the stage of startup. -/
example :
    let hook (role : Role) (o : Outcome) : Op :=
      .register ⟨role, none, none, none, some ⟨none, [], o⟩⟩
    let r := (new ⟨false, true⟩).run
      [hook .startup .ok, hook .startup (.error "no"), hook (.releasing 1) (.panic .other),
        .runStartup]
    r.stage = .startupRunning ∧ r.Reads [.completed, .failed] ∧ r.runningDown = 1 :=
  ⟨by decide, by decide, by decide⟩

end Registry
end Bookend

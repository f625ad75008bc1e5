import Bookend.Proofs.Step

namespace Bookend

namespace Status

/-- The callback was called. -/
def Called (s : Status) : Prop := s = .running ∨ s = .completed ∨ s = .failed

/-- The callback was called and came back. -/
def Over (s : Status) : Prop := s = .completed ∨ s = .failed

end Status

/-- A hook holds its callback until it is called. -/
def Hook.Held (k : Hook) : Prop :=
  k.callback.isSome ↔ k.status = .pending ∨ k.status = .skipped

theorem Verdict.status_called (v : Verdict) : v.status.Called := by
  cases v <;> simp [Verdict.status, Status.Called]

theorem Verdict.status_over {v : Verdict} (h : ∀ p, v ≠ .panicked p) : v.status.Over := by
  cases v with
  | completed => exact Or.inl rfl
  | failed f => exact Or.inr rfl
  | panicked p => exact absurd rfl (h p)

theorem Verdict.status_running {v : Verdict} : v.status = .running ↔ ∃ p, v = .panicked p := by
  cases v <;> simp [Verdict.status]

namespace Status
variable {s : Status}

theorem Over.called (h : s.Over) : s.Called := Or.inr h

theorem Called.not_pending (h : s.Called) : s ≠ .pending := by
  rcases h with rfl | rfl | rfl <;> simp

theorem Called.not_skipped (h : s.Called) : s ≠ .skipped := by
  rcases h with rfl | rfl | rfl <;> simp

end Status

namespace Hook
variable {k : Hook}

theorem held_ofSpec (h : Handle) (s : Spec) (c : Callback) : (ofSpec h s c).Held := by
  simp [Held, ofSpec]

theorem held_tried (b : Bool) (k : Hook) : (k.tried b).Held := by
  have hc := (k.verdict b).status_called
  simp [Held, hc.not_pending, hc.not_skipped]

theorem Held.skip (h : k.Held) (hp : k.status = .pending) : k.skip.Held := by
  have hc : k.callback.isSome := h.mpr (Or.inl hp)
  simp [Held, Hook.skip, hc]

theorem Held.settle (h : k.Held) (b : Bool) (called : List Handle) : (k.settle b called).Held := by
  unfold Hook.settle
  split
  · exact held_tried b k
  · exact h

theorem settle_not_skipped (hp : k.status = .pending) (b : Bool) (called : List Handle) :
    (k.settle b called).status ≠ .skipped := by
  unfold Hook.settle
  split
  · rw [tried_status]
    exact (Verdict.status_called _).not_skipped
  · simp [hp]

end Hook

namespace Registry

/-- Startup has succeeded. -/
def Up (r : Registry) : Prop :=
  (∀ k ∈ r.startup, k.status = .completed) ∧ r.started = r.startupOrder

/-- Startup has stopped at a hook, and only those before it are on record as started. -/
def Stopped (r : Registry) (here behind : Status) : Prop :=
  ∃ pre k post, r.startup = pre ++ k :: post ∧ (∀ a ∈ pre, a.status = .completed) ∧
    k.status = here ∧ (∀ a ∈ post, a.status = behind) ∧ r.started = pre.map Hook.handle

/-- A sweep is over: what it could call came back, the rest was passed over. -/
def Settled (r : Registry) (w : Sweep) : Prop :=
  (∀ k ∈ r.cleanup, if r.isEligible w k then k.status.Over else k.status = .skipped) ∧
    ∀ k ∈ r.atExit, k.status.Over

/-- A sweep was left by the one hook that is still running. -/
def Unsettled (r : Registry) (w : Sweep) : Prop :=
  (∃ k ∈ r.cleanup ++ r.atExit, k.status = .running ∧
    ∀ a ∈ r.cleanup ++ r.atExit, a.status = .running → a = k) ∧
  (∀ k ∈ r.cleanup, if r.isEligible w k then k.status ≠ .skipped else k.status = .skipped) ∧
    ∀ k ∈ r.atExit, k.status ≠ .skipped

/-- Where a registry can stand between two calls. The three left ones follow a panic. -/
inductive Situation (r : Registry) : Prop
  | collecting (stage : r.stage = .collecting) (pending : ∀ k ∈ r.hooks, k.status = .pending)
      (noHandlers : r.atExit = []) (noneStarted : r.started = [])
  | ready (stage : r.stage = .ready) (up : r.Up)
      (pending : ∀ k ∈ r.cleanup ++ r.atExit, k.status = .pending)
  | startupLeft (stage : r.stage = .startupRunning) (stopped : r.Stopped .running .pending)
      (pending : ∀ k ∈ r.cleanup, k.status = .pending) (noHandlers : r.atExit = [])
  | unwindLeft (stage : r.stage = .startupRunning) (stopped : r.Stopped .failed .skipped)
      (rule : r.rules.unwindOnStartupFailure = true) (unsettled : r.Unsettled .unwind)
      (noHandlers : r.atExit = [])
  | cleanupLeft (stage : r.stage = .cleanupRunning) (up : r.Up) (unsettled : r.Unsettled .full)
  | finished (stage : r.stage = .done) (up : r.Up) (settled : r.Settled .full)
  | unwound (stage : r.stage = .done) (stopped : r.Stopped .failed .skipped)
      (rule : r.rules.unwindOnStartupFailure = true) (settled : r.Settled .unwind)
      (noHandlers : r.atExit = [])
  | abandoned (stage : r.stage = .done) (stopped : r.Stopped .failed .skipped)
      (rule : r.rules.unwindOnStartupFailure = false)
      (skipped : ∀ k ∈ r.cleanup, k.status = .skipped) (noHandlers : r.atExit = [])

/-- What every reachable registry keeps. -/
structure Sound (r : Registry) : Prop extends r.Tables where
  held : ∀ k ∈ r.hooks, k.Held
  situation : r.Situation

theorem Sound.holding {r : Registry} (sound : r.Sound) {k : Hook} (hk : k ∈ r.hooks)
    (hp : k.status = .pending) : k.callback.isSome :=
  (sound.held k hk).mpr (Or.inl hp)

theorem sound_new (rules : HookRules) : (new rules).Sound where
  toTables := tables_new rules
  held := by simp [new, hooks]
  situation := .collecting rfl (by simp [new, hooks]) rfl rfl

namespace Situation
variable {r : Registry}

theorem of_collecting (h : r.Situation) (hs : r.stage = .collecting) :
    (∀ k ∈ r.hooks, k.status = .pending) ∧ r.atExit = [] ∧ r.started = [] := by
  cases h with
  | collecting _ pending noHandlers noneStarted => exact ⟨pending, noHandlers, noneStarted⟩
  | _ stage => rw [hs] at stage; cases stage

theorem of_ready (h : r.Situation) (hs : r.stage = .ready) :
    r.Up ∧ ∀ k ∈ r.cleanup ++ r.atExit, k.status = .pending := by
  cases h with
  | ready _ up pending => exact ⟨up, pending⟩
  | _ stage => rw [hs] at stage; cases stage

end Situation

section
variable {r s : Registry} {w : Sweep} {called : List Handle}

theorem mem_hooks {k : Hook} : k ∈ r.hooks ↔ k ∈ r.startup ∨ k ∈ r.cleanup ∨ k ∈ r.atExit := by
  simp [hooks]

theorem isEligible_of_plain {a k : Hook} (h : a.plain = k.plain) :
    r.isEligible w a = r.isEligible w k := by
  have hrel : a.plain.releases = k.plain.releases := by rw [h]
  change a.releases = k.releases at hrel
  simp only [isEligible, hrel]

theorem mem_swept_cleanup {a : Hook} (h : a ∈ (r.swept w called).cleanup) :
    ∃ k ∈ r.cleanup, (r.swept w called).isEligible w a = r.isEligible w k ∧
      a = if r.isEligible w k then k.settle r.rules.catchPanics called else k.skip := by
  obtain ⟨k, hk, rfl⟩ := List.mem_map.mp h
  refine ⟨k, hk, ?_, rfl⟩
  change r.isEligible w _ = r.isEligible w k
  split
  · exact isEligible_of_plain (Hook.settle_plain _ _ k)
  · exact isEligible_of_plain (Hook.skip_plain k)

theorem mem_swept_atExit {a : Hook} (h : a ∈ (r.swept w called).atExit) :
    ∃ k ∈ r.atExit, a = k.settle r.rules.catchPanics called := by
  obtain ⟨k, hk, rfl⟩ := List.mem_map.mp h
  exact ⟨k, hk, rfl⟩

theorem swept_held (hheld : ∀ k ∈ r.cleanup ++ r.atExit, k.Held)
    (hpending : ∀ k ∈ r.cleanup, k.status = .pending) :
    ∀ a ∈ (r.swept w called).cleanup ++ (r.swept w called).atExit, a.Held := by
  intro a ha
  rcases List.mem_append.mp ha with ha | ha
  · obtain ⟨k, hk, _, rfl⟩ := mem_swept_cleanup ha
    have hh := hheld k (List.mem_append_left _ hk)
    split
    · exact hh.settle _ _
    · exact hh.skip (hpending k hk)
  · obtain ⟨k, hk, rfl⟩ := mem_swept_atExit ha
    exact (hheld k (List.mem_append_right _ hk)).settle _ _

/-- Nothing that a sweep plans is left over when it gets through. -/
theorem SweepEnds.settled (h : r.SweepEnds w s) (hw : w = .full ∨ r.atExit = []) : s.Settled w := by
  obtain ⟨hcalm, rfl⟩ := h
  have hover : ∀ k ∈ r.cleanupPlan w,
      (k.settle r.rules.catchPanics ((r.cleanupPlan w).map Hook.handle)).status.Over := by
    intro k hk
    simp only [Hook.settle, List.mem_map_of_mem hk, if_true, Hook.tried_status]
    exact Verdict.status_over (hcalm k hk)
  constructor
  · intro a ha
    obtain ⟨k, hk, he, rfl⟩ := mem_swept_cleanup ha
    rw [he]
    split
    · rename_i hin
      exact hover k (mem_cleanupPlan.mpr (Or.inr ⟨hk, hin⟩))
    · rfl
  · intro a ha
    obtain ⟨k, hk, rfl⟩ := mem_swept_atExit ha
    rcases hw with hw | hw
    · exact hover k (mem_cleanupPlan.mpr (Or.inl ⟨hw, hk⟩))
    · rw [hw] at hk
      cases hk

theorem mem_hooks_of_plan {k : Hook} (h : k ∈ r.cleanupPlan w) : k ∈ r.cleanup ++ r.atExit := by
  rcases mem_cleanupPlan.mp h with ⟨_, hk⟩ | ⟨hk, _⟩
  · exact List.mem_append_right _ hk
  · exact List.mem_append_left _ hk

theorem mem_hooks_of_mem {k : Hook} (h : k ∈ r.cleanup ++ r.atExit) : k ∈ r.hooks := by
  rw [hooks, List.append_assoc]
  exact List.mem_append_right _ h

theorem Sound.holding_collecting (sound : r.Sound) (hs : r.stage = .collecting) :
    ∀ k ∈ r.hooks, k.callback.isSome :=
  fun _ hk => sound.holding hk ((sound.situation.of_collecting hs).1 _ hk)

theorem Sound.holding_ready (sound : r.Sound) (hs : r.stage = .ready) :
    ∀ k ∈ r.cleanupPlan w, k.callback.isSome := by
  intro k hk
  have hin := mem_hooks_of_plan hk
  exact sound.holding (mem_hooks_of_mem hin) ((sound.situation.of_ready hs).2 k hin)

/-- Of the hooks that a sweep came to, only the one that stopped it can still be running. -/
theorem Tables.running_of_settle (t : r.Tables) {pre post : List Hook} {a k : Hook}
    (hplan : r.cleanupPlan w = pre ++ k :: post)
    (hpre : ∀ c ∈ pre, ∀ p, c.verdict r.rules.catchPanics ≠ .panicked p)
    (ha : a ∈ r.cleanup ++ r.atExit) (hp : a.status = .pending)
    (hs : (a.settle r.rules.catchPanics ((pre ++ [k]).map Hook.handle)).status = .running) :
    a = k := by
  unfold Hook.settle at hs
  split at hs
  · rename_i hm
    obtain ⟨c, hc, he⟩ := List.mem_map.mp hm
    have hplanned : c ∈ r.cleanupPlan w := by
      rw [hplan, List.append_cons]
      exact List.mem_append_left _ hc
    have hin := mem_hooks_of_mem (mem_hooks_of_plan hplanned)
    have hca := t.handle_inj hin (mem_hooks_of_mem ha) he
    subst hca
    rw [Hook.tried_status, Verdict.status_running] at hs
    obtain ⟨q, hq⟩ := hs
    rcases List.mem_append.mp hc with hc | hc
    · exact absurd hq (hpre c hc q)
    · exact List.mem_singleton.mp hc
  · rw [hp] at hs
    cases hs

/-- Exactly the hook that panicked is left running. -/
theorem SweepLeft.unsettled (h : r.SweepLeft w s) (t : r.Tables)
    (hpending : ∀ k ∈ r.cleanup ++ r.atExit, k.status = .pending) : s.Unsettled w := by
  obtain ⟨pre, k, post, p, hplan, hpre, hk, rfl⟩ := h
  have hself : k.settle r.rules.catchPanics ((pre ++ [k]).map Hook.handle) =
      k.tried r.rules.catchPanics := by
    simp [Hook.settle]
  have hrunning : ∀ a ∈ r.cleanup ++ r.atExit,
      (a.settle r.rules.catchPanics ((pre ++ [k]).map Hook.handle)).status = .running → a = k :=
    fun a ha => t.running_of_settle hplan hpre ha (hpending a ha)
  refine ⟨⟨k.tried r.rules.catchPanics, ?_, ?_, ?_⟩, ?_, ?_⟩
  · rw [← hself]
    have hin : k ∈ r.cleanupPlan w := by simp [hplan]
    rcases mem_cleanupPlan.mp hin with ⟨_, hk⟩ | ⟨hk, he⟩
    · exact List.mem_append_right _ (List.mem_map_of_mem hk)
    · exact List.mem_append_left _ (List.mem_map.mpr ⟨k, hk, by simp [he]⟩)
  · rw [Hook.tried_status, hk]
    rfl
  · intro a ha hs
    rw [← hself]
    rcases List.mem_append.mp ha with ha | ha
    · obtain ⟨c, hc, _, rfl⟩ := mem_swept_cleanup ha
      split at hs
      · rename_i he
        rw [if_pos he, hrunning c (List.mem_append_left _ hc) hs]
      · cases hs
    · obtain ⟨c, hc, rfl⟩ := mem_swept_atExit ha
      rw [hrunning c (List.mem_append_right _ hc) hs]
  · intro a ha
    obtain ⟨c, hc, he, rfl⟩ := mem_swept_cleanup ha
    rw [he]
    split
    · exact Hook.settle_not_skipped (hpending c (List.mem_append_left _ hc)) _ _
    · rfl
  · intro a ha
    obtain ⟨c, hc, rfl⟩ := mem_swept_atExit ha
    exact Hook.settle_not_skipped (hpending c (List.mem_append_right _ hc)) _ _

end

end Registry
end Bookend

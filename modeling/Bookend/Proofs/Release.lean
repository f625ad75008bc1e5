import Bookend.Proofs.Unwind

namespace Bookend
namespace Registry

/-- What a cleanup hook is there for has been acquired: what its owner took, or else whatever
startup takes as a whole. -/
def Acquired (r : Registry) (k : Hook) : Prop :=
  match k.releases with
  | some o => r.status? o = some .completed
  | none => ∀ s ∈ r.startup, s.status = .completed

variable {r : Registry} {here behind : Status}

theorem Tables.status?_startup (t : r.Tables) {s : Hook} (hs : s ∈ r.startup) :
    r.status? s.handle = some s.status :=
  t.status?_of_mem (mem_hooks.mpr (Or.inl hs))

theorem Tables.acquired_of_up (t : r.Tables) (hup : r.Up) : ∀ k ∈ r.cleanup ++ r.atExit,
    r.Acquired k := by
  intro k hk
  unfold Acquired
  split
  · rename_i o ho
    have howner : o ∈ r.startupOrder := by
      rcases List.mem_append.mp hk with hk | hk
      · exact t.owners k hk o ho
      · have hrole := (t.atExitRoles k hk).1
        simp [Hook.releases, Role.releases, hrole] at ho
    obtain ⟨s, hs, rfl⟩ := List.mem_map.mp howner
    rw [t.status?_startup hs, hup.1 s hs]
  · exact hup.1

/-- Where startup stopped, the hooks on record as started are those that completed. -/
theorem Tables.started_iff (t : r.Tables) (h : r.Stopped here behind) (hhere : here ≠ .completed)
    (hbehind : behind ≠ .completed) {o : Handle} (ho : o ∈ r.startupOrder) :
    o ∈ r.started ↔ r.status? o = some .completed := by
  obtain ⟨pre, k, post, htable, hpre, hk, hpost, hstarted⟩ := h
  obtain ⟨s, hs, rfl⟩ := List.mem_map.mp ho
  rw [t.status?_startup hs, hstarted]
  constructor
  · intro hm
    obtain ⟨a, ha, he⟩ := List.mem_map.mp hm
    have hin : a ∈ r.startup := by
      rw [htable]
      exact List.mem_append_left _ ha
    have hsame : a = s := t.handle_inj (mem_hooks.mpr (Or.inl hin)) (mem_hooks.mpr (Or.inl hs)) he
    rw [← hsame, hpre a ha]
  · intro hc
    rw [Option.some.injEq] at hc
    rw [htable] at hs
    rcases List.mem_append.mp hs with hs | hs
    · exact List.mem_map_of_mem hs
    · rcases List.mem_cons.mp hs with rfl | hs
      · exact absurd (hk.symm.trans hc) hhere
      · exact absurd ((hpost s hs).symm.trans hc) hbehind

/-- What an unwinding may call was acquired, and it may call every release of that kind. -/
theorem Tables.eligible_iff (t : r.Tables) (h : r.Stopped .failed .skipped) {k : Hook}
    (hk : k ∈ r.cleanup) {o : Handle} (ho : k.releases = some o) :
    r.isEligible .unwind k = true ↔ r.status? o = some .completed := by
  rw [← t.started_iff h (by decide) (by decide) (t.owners k hk o ho)]
  simp [isEligible, ho]

theorem Tables.acquired_of_eligible (t : r.Tables) (h : r.Stopped .failed .skipped) {k : Hook}
    (hk : k ∈ r.cleanup) (he : r.isEligible .unwind k = true) : r.Acquired k := by
  unfold Acquired
  cases ho : k.releases with
  | some o => exact (t.eligible_iff h hk ho).mp he
  | none => simp [isEligible, ho] at he

/-- No cleanup hook is called for something that was not acquired. -/
theorem Sound.acquired (sound : r.Sound) : ∀ k ∈ r.cleanup ++ r.atExit,
    k.status.Called → r.Acquired k := by
  intro k hk hcalled
  have hcleanup (hnone : r.atExit = []) : k ∈ r.cleanup := by simpa [hnone] using hk
  cases sound.situation with
  | collecting _ pending =>
    exact absurd (pending k (mem_hooks_of_mem hk)) hcalled.not_pending
  | ready _ _ pending => exact absurd (pending k hk) hcalled.not_pending
  | startupLeft _ _ pending noHandlers =>
    exact absurd (pending k (hcleanup noHandlers)) hcalled.not_pending
  | unwindLeft _ stopped _ unsettled noHandlers =>
    have hk := hcleanup noHandlers
    have hsplit := unsettled.2.1 k hk
    split at hsplit
    · rename_i he
      exact sound.acquired_of_eligible stopped hk he
    · exact absurd hsplit hcalled.not_skipped
  | cleanupLeft _ up => exact sound.acquired_of_up up k hk
  | finished _ up => exact sound.acquired_of_up up k hk
  | unwound _ stopped _ settled noHandlers =>
    have hk := hcleanup noHandlers
    have hsplit := settled.1 k hk
    split at hsplit
    · rename_i he
      exact sound.acquired_of_eligible stopped hk he
    · exact absurd hsplit hcalled.not_skipped
  | abandoned _ _ _ skipped noHandlers =>
    exact absurd (skipped k (hcleanup noHandlers)) hcalled.not_skipped

/-- A registry that is done has called every release that was due. -/
theorem Sound.released_iff (sound : r.Sound) (hdone : r.stage = .done)
    (hrule : (∀ s ∈ r.startup, s.status ≠ .failed) ∨ r.rules.unwindOnStartupFailure = true)
    {k : Hook} (hk : k ∈ r.cleanup) {o : Handle} (ho : k.releases = some o) :
    k.status.Over ↔ r.status? o = some .completed := by
  cases sound.situation with
  | finished _ up settled =>
    have hover : k.status.Over := by
      have hsplit := settled.1 k hk
      rwa [if_pos (sound.eligible_of_up up k hk)] at hsplit
    have hacquired := sound.acquired_of_up up k (List.mem_append_left _ hk)
    simp only [Acquired, ho] at hacquired
    exact iff_of_true hover hacquired
  | unwound _ stopped _ settled =>
    rw [← sound.eligible_iff stopped hk ho]
    have hsplit := settled.1 k hk
    split at hsplit
    · rename_i he
      exact iff_of_true hsplit he
    · rename_i he
      refine iff_of_false (fun hover => ?_) he
      exact hover.called.not_skipped hsplit
  | abandoned _ stopped rule =>
    exfalso
    rcases hrule with hnone | hrule
    · obtain ⟨pre, s, post, htable, _, hfailed, _⟩ := stopped
      exact hnone s (by simp [htable]) hfailed
    · rw [rule] at hrule
      cases hrule
  | _ stage => rw [hdone] at stage; cases stage

/-- Nothing is released that was not acquired, at any time, and once a registry is done
everything is released that was. -/
theorem run_releases_acquired (rules : HookRules) (ops : List Op) :
    let r := (new rules).run ops
    (∀ k ∈ r.hooks, ∀ o, k.releases = some o → k.status.Called →
        r.status? o = some .completed) ∧
      (∀ k, k ∈ r.cleanup ∧ k.releases = none ∨ k ∈ r.atExit → k.status.Called →
        ∀ s ∈ r.startup, s.status = .completed) ∧
      (r.stage = .done →
        (∀ s ∈ r.startup, s.status ≠ .failed) ∨ rules.unwindOnStartupFailure = true →
        ∀ k ∈ r.hooks, ∀ o, k.releases = some o →
          (k.status = .completed ∨ k.status = .failed ↔ r.status? o = some .completed)) := by
  intro r
  have sound : r.Sound := sound_run rules ops
  have hrules : r.rules = rules := run_rules rules ops
  have hhandler : ∀ k ∈ r.atExit, k.releases = none := by
    intro k hk
    simp [Hook.releases, Role.releases, (sound.atExitRoles k hk).1]
  have howning : ∀ k ∈ r.hooks, ∀ o, k.releases = some o → k ∈ r.cleanup := by
    intro k hk o ho
    rcases mem_hooks.mp hk with hk | hk | hk
    · simp [Hook.releases, Role.releases, sound.startupRoles k hk] at ho
    · exact hk
    · rw [hhandler k hk] at ho
      cases ho
  refine ⟨?_, ?_, ?_⟩
  · intro k hk o ho hcalled
    have hacquired := sound.acquired k (List.mem_append_left _ (howning k hk o ho)) hcalled
    simpa only [Acquired, ho] using hacquired
  · intro k hk hcalled
    have hin : k ∈ r.cleanup ++ r.atExit ∧ k.releases = none := by
      rcases hk with ⟨hk, hnone⟩ | hk
      · exact ⟨List.mem_append_left _ hk, hnone⟩
      · exact ⟨List.mem_append_right _ hk, hhandler k hk⟩
    have hacquired := sound.acquired k hin.1 hcalled
    simpa only [Acquired, hin.2] using hacquired
  · intro hdone hrule k hk o ho
    rw [← hrules] at hrule
    exact sound.released_iff hdone hrule (howning k hk o ho) ho

theorem run_releases_acquired_broken :
    ((new {}).run (brokenOps ++ [.runStartup])).stage = .done ∧
      ((new {}).run (brokenOps ++ [.runStartup])).status? 3 = some .failed ∧
      ∀ k ∈ ((new {}).run (brokenOps ++ [.runStartup])).hooks, ∀ o, k.releases = some o →
        (k.status = .completed ∨ k.status = .failed ↔
          ((new {}).run (brokenOps ++ [.runStartup])).status? o = some .completed) := by
  have hdone : ((new {}).run (brokenOps ++ [.runStartup])).stage = .done := by decide
  have hall := run_releases_acquired {} (brokenOps ++ [.runStartup])
  exact ⟨hdone, by decide, hall.2.2 hdone (Or.inr rfl)⟩

end Registry
end Bookend

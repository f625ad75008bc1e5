import Bookend.Proofs.Tables

namespace Bookend

/-- The hook after a pass that called the hooks `called`. -/
def Hook.settle (catching : Bool) (called : List Handle) (k : Hook) : Hook :=
  if k.handle ∈ called then k.tried catching else k

namespace Hook

@[simp] theorem settle_handle (b : Bool) (called : List Handle) (k : Hook) :
    (k.settle b called).handle = k.handle := by
  unfold settle; split <;> simp

@[simp] theorem settle_plain (b : Bool) (called : List Handle) (k : Hook) :
    (k.settle b called).plain = k.plain := by
  unfold settle; split <;> simp

end Hook

/-- A pass that stopped after `done` tried just these. -/
theorem map_settle {b : Bool} {done left : List Hook}
    (hn : ((done ++ left).map Hook.handle).Nodup) :
    (done ++ left).map (Hook.settle b (done.map Hook.handle)) =
      done.map (Hook.tried b) ++ left := by
  rw [List.map_append]
  congr 1
  · apply List.map_congr_left
    intro k hk
    simp [Hook.settle, List.mem_map_of_mem hk]
  · rw [List.map_append, List.nodup_append] at hn
    have hid : ∀ k ∈ left, k.settle b (done.map Hook.handle) = k := by
      intro k hk
      have hout : k.handle ∉ done.map Hook.handle :=
        fun hm => hn.2.2 _ hm _ (List.mem_map_of_mem hk) rfl
      simp [Hook.settle, hout]
    exact (List.map_congr_left hid).trans (List.map_id _)

namespace Registry

theorem latest_map {f : Hook → Hook} (hf : ∀ k, (f k).handle = k.handle) {ks : List Hook}
    (hn : (ks.map Hook.handle).Nodup) {k : Hook} (hk : k ∈ ks) : latest (ks.map f) k = f k := by
  have hp : (fun a : Hook => a.handle == k.handle) ∘ f = fun a => a.handle == k.handle := by
    funext a
    simp [hf]
  have hfind : ks.find? (fun a => a.handle == k.handle) = some k := by
    cases hc : ks.find? (fun a => a.handle == k.handle) with
    | none =>
      have := List.find?_eq_none.mp hc k hk
      simp at this
    | some a =>
      have ha : a.handle = k.handle := by simpa using List.find?_some hc
      rw [List.inj_on_of_nodup_map hn (List.mem_of_find?_eq_some hc) hk ha]
  rw [latest, List.find?_map, hp, hfind]
  rfl

theorem latest_other {ks : List Hook} {k : Hook} (h : k.handle ∉ ks.map Hook.handle) :
    latest ks k = k := by
  have hfind : ks.find? (fun a => a.handle == k.handle) = none := by
    apply List.find?_eq_none.mpr
    intro a ha he
    exact h (List.mem_map.mpr ⟨a, ha, by simpa using he⟩)
  simp [latest, hfind]

/-- The hooks that a sweep calls, in no particular order. -/
def candidates (r : Registry) (w : Sweep) : List Hook :=
  (if w = .full then r.atExit else []) ++ r.cleanup.filter (r.isEligible w)

/-- The tables after a sweep that called `called`. -/
def swept (r : Registry) (w : Sweep) (called : List Handle) : Registry :=
  { r with
    cleanup := r.cleanup.map fun k =>
      if r.isEligible w k then k.settle r.rules.catchPanics called else k.skip
    atExit := r.atExit.map (Hook.settle r.rules.catchPanics called) }

variable {r : Registry} {w : Sweep}

/-- Splitting by priority and pairing loses nothing. -/
theorem filter_parts (ks : List Hook) :
    (ks.filter (·.priority.isSome) ++
      ks.filter (fun k => k.priority.isNone && k.releases.isSome) ++
      ks.filter (fun k => k.priority.isNone && k.releases.isNone)).Perm ks := by
  have hrest := List.filter_append_perm (fun k : Hook => k.releases.isSome)
    (ks.filter (·.priority.isNone))
  have hall := List.filter_append_perm (fun k : Hook => k.priority.isSome) ks
  simp only [List.filter_filter, Option.not_isSome, Bool.and_comm] at hrest hall
  rw [List.append_assoc]
  exact (hrest.append_left _).trans hall

theorem cleanupPlan_perm (r : Registry) (w : Sweep) :
    (r.cleanupPlan w).Perm (r.candidates w) := by
  have hhandlers : (if w = .full then r.atExit.reverse else []).Perm
      (if w = .full then r.atExit else []) := by
    split
    · exact List.reverse_perm _
    · exact List.Perm.refl _
  refine List.Perm.trans ?_ ((filter_parts (r.cleanup.filter (r.isEligible w))).append_left _)
  simp only [cleanupPlan, List.append_assoc]
  exact hhandlers.append ((arrange_perm _ _).append
    ((arrange_perm _ _).append (List.reverse_perm _)))

theorem mem_cleanupPlan {k : Hook} :
    k ∈ r.cleanupPlan w ↔ w = .full ∧ k ∈ r.atExit ∨ k ∈ r.cleanup ∧ r.isEligible w k = true := by
  rw [(cleanupPlan_perm r w).mem_iff, candidates, List.mem_append, List.mem_filter]
  by_cases hw : w = .full <;> simp [hw]

theorem Tables.plan_nodup (t : r.Tables) (w : Sweep) :
    ((r.cleanupPlan w).map Hook.handle).Nodup := by
  rw [((cleanupPlan_perm r w).map Hook.handle).nodup_iff]
  have hsub : (r.candidates w).Sublist (r.atExit ++ r.cleanup) := by
    refine List.Sublist.append ?_ List.filter_sublist
    split
    · exact List.Sublist.refl _
    · exact List.nil_sublist _
  have hn : ((r.atExit ++ r.cleanup).map Hook.handle).Nodup := by
    have hp : (r.atExit ++ r.cleanup).Perm (r.cleanup ++ r.atExit) := List.perm_append_comm
    rw [(hp.map Hook.handle).nodup_iff]
    refine t.nodup.sublist (List.Sublist.map Hook.handle ?_)
    simp only [hooks, List.append_assoc]
    exact List.sublist_append_right _ _
  exact hn.sublist (hsub.map Hook.handle)

/-- Looking the planned hooks up by their handles finds each one's own outcome. -/
theorem Tables.afterDrain_eq (t : r.Tables) {done left : List Hook}
    (hplan : r.cleanupPlan w = done ++ left) :
    r.afterDrain w (done.map (Hook.tried r.rules.catchPanics) ++ left) =
      r.swept w (done.map Hook.handle) := by
  have hn := t.plan_nodup w
  rw [hplan] at hn
  have hin : ∀ k ∈ r.cleanupPlan w,
      latest (done.map (Hook.tried r.rules.catchPanics) ++ left) k =
        k.settle r.rules.catchPanics (done.map Hook.handle) := by
    intro k hk
    rw [hplan] at hk
    rw [← map_settle hn]
    exact latest_map (Hook.settle_handle _ _) hn hk
  unfold afterDrain swept
  congr 1
  · apply List.map_congr_left
    intro k hk
    split
    · rename_i he
      exact hin k (mem_cleanupPlan.mpr (Or.inr ⟨hk, he⟩))
    · rfl
  · apply List.map_congr_left
    intro k hk
    by_cases hw : w = .full
    · exact hin k (mem_cleanupPlan.mpr (Or.inl ⟨hw, hk⟩))
    · -- unwinding plans no handlers, and no other hook shares a handle with one
      have hout : k.handle ∉ (done ++ left).map Hook.handle := by
        intro hm
        obtain ⟨a, ha, he⟩ := List.mem_map.mp hm
        rw [← hplan, mem_cleanupPlan] at ha
        simp only [hw, false_and, false_or] at ha
        exact t.cleanup_disjoint (List.mem_map_of_mem ha.1) (he ▸ List.mem_map_of_mem hk)
      have hdone : k.handle ∉ done.map Hook.handle := by
        intro hm
        exact hout (by simp only [List.map_append]; exact List.mem_append_left _ hm)
      rw [latest_other (by simpa [List.map_append] using hout)]
      simp [Hook.settle, hdone]

/-- What a sweep reports that nothing left half way. -/
def sweepReport (r : Registry) (w : Sweep) : PassReport where
  phase := .cleanup
  invoked := (r.cleanupPlan w).map Hook.handle
  completed := ((r.cleanupPlan w).filter
    (Hook.verdict r.rules.catchPanics · = .completed)).map Hook.handle
  skipped := (r.ineligible w).map Hook.handle
  failures := (r.cleanupPlan w).filterMap fun k => (k.verdict r.rules.catchPanics).failure?

/-- What a sweep leaves before its first call. -/
def sweepOpening (r : Registry) (w : Sweep) : Journal :=
  (r.ineligible w).map (fun k => .event (.notEligible k.name k.handle)) ++
    [.event (.cleanupBegan (r.cleanupPlan w).length (w == .unwind))]

@[simp] theorem sweepOpening_calls (r : Registry) (w : Sweep) : (r.sweepOpening w).calls = [] := by
  simp [sweepOpening, Journal.calls]

theorem Tables.drain_of_calm (t : r.Tables)
    (hcalm : ∀ k ∈ r.cleanupPlan w, ∀ p, k.verdict r.rules.catchPanics ≠ .panicked p) :
    r.drain w = ⟨.ok (r.sweepReport w), r.swept w ((r.cleanupPlan w).map Hook.handle),
      r.sweepOpening w ++
        (Pass.attempted r.rules.catchPanics (r.cleanupPlan w) (.skipping .cleanup [])).effects ++
        [.tally .durations .cleanup]⟩ := by
  have hstate := t.afterDrain_eq (List.append_nil (r.cleanupPlan w)).symm
  rw [List.append_nil] at hstate
  simp only [drain, drainAll_of_calm hcalm]
  simp [Pass.attempted, Pass.skipping, PassReport.empty, hstate, sweepReport, sweepOpening]

theorem Tables.drain_of_panicked (t : r.Tables) {pre post : List Hook} {k : Hook} {p : Payload}
    (hplan : r.cleanupPlan w = pre ++ k :: post)
    (hpre : ∀ a ∈ pre, ∀ p, a.verdict r.rules.catchPanics ≠ .panicked p)
    (hk : k.verdict r.rules.catchPanics = .panicked p) :
    r.drain w = ⟨.error p, r.swept w ((pre ++ [k]).map Hook.handle),
      r.sweepOpening w ++
        (Pass.attempted r.rules.catchPanics (pre ++ [k]) (.cut .cleanup p post)).effects⟩ := by
  have hsplit : r.cleanupPlan w = (pre ++ [k]) ++ post := by simpa using hplan
  have hstate := t.afterDrain_eq hsplit
  have hpass := drainAll_of_panicked post hpre hk
  rw [← hplan] at hpass
  simp only [drain, hpass]
  simp only [Pass.attempted, Pass.cut, hstate, sweepOpening]

/-- A sweep whose calls were calm was not left half way. -/
theorem drain_calm (h : (r.drain w).effects.Calm r.rules.catchPanics) :
    ∀ k ∈ r.cleanupPlan w, ∀ p, k.verdict r.rules.catchPanics ≠ .panicked p := by
  apply drainAll_calm
  intro e he
  refine h e ?_
  simp only [drain]
  split <;> simp [he]

theorem swept_alike (r : Registry) (w : Sweep) (called : List Handle) :
    r.Alike (r.swept w called) where
  next := rfl
  startup := rfl
  cleanup := by
    simp only [swept, List.map_map]
    apply List.map_congr_left
    intro k _
    simp only [Function.comp_apply]
    split <;> simp
  atExit := by simp [swept, Function.comp_def]

end Registry
end Bookend

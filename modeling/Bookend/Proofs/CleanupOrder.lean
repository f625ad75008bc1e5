import Bookend.Proofs.Run

namespace Bookend

namespace Hook

/-- The place that the hook's owner has in an order. -/
def ownerPlace (order : List Handle) (k : Hook) : Nat := (k.releases.map order.idxOf).getD 0

/-- First the owner's place, then the order of registration. -/
def releaseKey (order : List Handle) (k : Hook) : Nat ×ₗ Handle :=
  toLex (k.ownerPlace order, k.handle)

theorem releaseKey_le {order : List Handle} {a b : Hook} :
    a.releaseKey order ≤ b.releaseKey order ↔
      a.ownerPlace order < b.ownerPlace order ∨
        a.ownerPlace order = b.ownerPlace order ∧ a.handle ≤ b.handle := by
  simp [releaseKey, Prod.Lex.toLex_le_toLex]

/-- The same hook, its callback ending in `o`. -/
def endingIn (o : Outcome) (k : Hook) : Hook :=
  { k with callback := k.callback.map fun c => { c with outcome := o } }

end Hook

namespace Registry

/-- The order of a full cleanup: at-exit handlers newest first, hooks with a priority of
their own by priority and age, releases against the order of startup, the rest newest first. -/
def fullOrder (r : Registry) : List Hook :=
  descending Hook.handle r.atExit ++
    ascending Hook.orderKey (r.cleanup.filter (·.priority.isSome)) ++
    descending (Hook.releaseKey r.startupOrder)
      (r.cleanup.filter fun k => k.priority.isNone && k.releases.isSome) ++
    descending Hook.handle (r.cleanup.filter fun k => k.priority.isNone && k.releases.isNone)

/-- The same registry, its cleanup callbacks ending as `outcome` says. -/
def recast (outcome : Handle → Outcome) (r : Registry) : Registry :=
  { r with
    cleanup := r.cleanup.map fun k => k.endingIn (outcome k.handle)
    atExit := r.atExit.map fun k => k.endingIn (outcome k.handle) }

variable {r : Registry}

theorem startPlace_eq (r : Registry) (k : Hook) : r.startPlace k = k.ownerPlace r.started := by
  unfold startPlace Hook.ownerPlace
  cases k.releases <;> rfl

theorem releasedBefore_iff {a b : Hook} :
    r.releasedBefore a b = true ↔ b.releaseKey r.started ≤ a.releaseKey r.started := by
  simp only [releasedBefore, startPlace_eq, Hook.releaseKey_le, Bool.or_eq_true, Bool.and_eq_true,
    decide_eq_true_eq, beq_iff_eq]
  lia

theorem byAge_inj {ks : List Hook} (h : ks.Pairwise fun a b => a.handle < b.handle) :
    ∀ a ∈ ks, ∀ b ∈ ks, a.handle = b.handle → a = b := by
  have hn : (ks.map Hook.handle).Nodup :=
    List.pairwise_map.mpr (h.imp fun hlt => Nat.ne_of_lt hlt)
  exact fun a ha b hb he => List.inj_on_of_nodup_map hn ha hb he

theorem ascending_byAge {ks : List Hook} (h : ks.Pairwise fun a b => a.handle < b.handle) :
    ascending Hook.handle ks = ks := by
  have hle := h.imp fun hlt => Nat.le_of_lt hlt
  exact (eq_ascending Hook.handle (List.Perm.refl ks) hle (byAge_inj h)).symm

theorem reverse_byAge {ks : List Hook} (h : ks.Pairwise fun a b => a.handle < b.handle) :
    ks.reverse = descending Hook.handle ks := by
  have hle := List.pairwise_reverse.mpr (h.imp fun hlt => Nat.le_of_lt hlt)
  exact eq_descending Hook.handle (List.reverse_perm ks) hle (byAge_inj h)

/-- The plan of a sweep, class by class, each sorted by its own key. -/
theorem Tables.cleanupPlan_eq (t : r.Tables) (w : Sweep) :
    r.cleanupPlan w =
      (if w = .full then descending Hook.handle r.atExit else []) ++
        ascending Hook.orderKey ((r.cleanup.filter (r.isEligible w)).filter (·.priority.isSome)) ++
        descending (Hook.releaseKey r.started)
          ((r.cleanup.filter (r.isEligible w)).filter fun k =>
            k.priority.isNone && k.releases.isSome) ++
        descending Hook.handle
          ((r.cleanup.filter (r.isEligible w)).filter fun k =>
            k.priority.isNone && k.releases.isNone) := by
  have hinj : ∀ p : Hook → Bool, ∀ a ∈ (r.cleanup.filter (r.isEligible w)).filter p,
      ∀ b ∈ (r.cleanup.filter (r.isEligible w)).filter p, a.handle = b.handle → a = b := by
    intro p a ha b hb he
    have hmem : ∀ c ∈ (r.cleanup.filter (r.isEligible w)).filter p, c ∈ r.hooks := fun c hc =>
      mem_hooks_of_mem (List.mem_append_left _ (List.mem_of_mem_filter (List.mem_of_mem_filter hc)))
    exact t.handle_inj (hmem a ha) (hmem b hb) he
  have hhandlers : (if w = .full then r.atExit.reverse else []) =
      if w = .full then descending Hook.handle r.atExit else [] := by
    rw [reverse_byAge t.atExitByAge]
  have hprioritized := arrange_eq_ascending Hook.precedes Hook.orderKey
    (fun a _ b _ => Hook.precedes_iff)
    (fun a ha b hb he => hinj (·.priority.isSome) a ha b hb (congrArg (fun x => (ofLex x).2) he))
  have hpaired := arrange_eq_descending r.releasedBefore (Hook.releaseKey r.started)
    (fun a _ b _ => releasedBefore_iff)
    (fun a ha b hb he => hinj (fun k => k.priority.isNone && k.releases.isSome) a ha b hb
      (congrArg (fun x => (ofLex x).2) he))
  have hunpaired := reverse_byAge
    ((t.cleanupByAge.filter (r.isEligible w)).filter fun k =>
      k.priority.isNone && k.releases.isNone)
  simp only [cleanupPlan, hhandlers, hprioritized, hpaired, hunpaired]

/-- Once startup has succeeded, a full sweep leaves nothing out. -/
theorem Tables.eligible_of_up (t : r.Tables) (hup : r.Up) :
    ∀ k ∈ r.cleanup, r.isEligible .full k = true := by
  intro k hk
  unfold isEligible
  split
  · rename_i o ho
    rw [hup.2]
    exact List.contains_iff_mem.mpr (t.owners k hk o ho)
  · rfl

theorem Tables.cleanupPlan_of_up (t : r.Tables) (hup : r.Up) :
    r.cleanupPlan .full = r.fullOrder := by
  rw [t.cleanupPlan_eq, List.filter_eq_self.mpr (t.eligible_of_up hup), hup.2]
  simp only [if_true, fullOrder]

theorem Tables.ineligible_of_up (t : r.Tables) (hup : r.Up) : r.ineligible .full = [] := by
  apply List.filter_eq_nil_iff.mpr
  intro k hk
  simp [t.eligible_of_up hup k hk]

theorem fullOrder_perm (r : Registry) : r.fullOrder.Perm (r.cleanup ++ r.atExit) := by
  have hparts := ((ascending_perm Hook.orderKey (r.cleanup.filter (·.priority.isSome))).append
    (descending_perm (Hook.releaseKey r.startupOrder)
      (r.cleanup.filter fun k => k.priority.isNone && k.releases.isSome))).append
    (descending_perm Hook.handle
      (r.cleanup.filter fun k => k.priority.isNone && k.releases.isNone))
  have hall := (descending_perm Hook.handle r.atExit).append (hparts.trans (filter_parts r.cleanup))
  refine List.Perm.trans ?_ (hall.trans List.perm_append_comm)
  simp [fullOrder, List.append_assoc]

theorem fullOrder_recast (outcome : Handle → Outcome) (r : Registry) :
    (r.recast outcome).fullOrder.map Hook.handle = r.fullOrder.map Hook.handle := by
  let f : Hook → Hook := fun k => k.endingIn (outcome k.handle)
  -- no key and no class looks at the callback
  have hasc : ∀ as, ascending Hook.orderKey (as.map f) = (ascending Hook.orderKey as).map f :=
    fun as => (map_ascending f Hook.orderKey as).symm
  have hrel : ∀ as, descending (Hook.releaseKey r.startupOrder) (as.map f) =
      (descending (Hook.releaseKey r.startupOrder) as).map f :=
    fun as => (map_descending f (Hook.releaseKey r.startupOrder) as).symm
  have hage : ∀ as, descending Hook.handle (as.map f) = (descending Hook.handle as).map f :=
    fun as => (map_descending f Hook.handle as).symm
  have hclass : ∀ p : Hook → Bool, (∀ k, p (f k) = p k) →
      (r.cleanup.map f).filter p = (r.cleanup.filter p).map f := by
    intro p hp
    rw [List.filter_map]
    congr 2
    exact funext hp
  have hfull : (r.recast outcome).fullOrder = r.fullOrder.map f := by
    change descending Hook.handle (r.atExit.map f) ++
      ascending Hook.orderKey ((r.cleanup.map f).filter (·.priority.isSome)) ++
      descending (Hook.releaseKey r.startupOrder)
        ((r.cleanup.map f).filter fun k => k.priority.isNone && k.releases.isSome) ++
      descending Hook.handle
        ((r.cleanup.map f).filter fun k => k.priority.isNone && k.releases.isNone) = _
    rw [hclass _ fun _ => rfl, hclass _ fun _ => rfl, hclass _ fun _ => rfl, hasc, hrel, hage, hage]
    simp only [fullOrder, List.map_append]
  rw [hfull, List.map_map]
  rfl

/-- No hook panics its way out of a cleanup call that is calm. -/
theorem runCleanup_calm (hs : r.stage = .ready)
    (hcalm : r.runCleanup.effects.Calm r.rules.catchPanics) :
    ∀ k ∈ r.cleanupPlan .full, ∀ p, k.verdict r.rules.catchPanics ≠ .panicked p := by
  have hdrain : (drain { r with stage := .cleanupRunning } .full).effects.Calm
      r.rules.catchPanics := by
    simp only [runCleanup, refusal?_of_stage (a := .runCleanup) hs] at hcalm
    split at hcalm
    · exact hcalm
    · exact hcalm.left
  exact drain_calm (r := { r with stage := .cleanupRunning }) hdrain

/-- A full cleanup that no panic leaves, as a whole. -/
theorem Tables.runCleanup_through (t : r.Tables) (hs : r.stage = .ready)
    (hplan : ∀ k ∈ r.cleanupPlan .full, ∀ p, k.verdict r.rules.catchPanics ≠ .panicked p) :
    r.runCleanup =
      ⟨.value (r.sweepReport .full),
        { r.swept .full ((r.cleanupPlan .full).map Hook.handle) with stage := .done },
        r.sweepOpening .full ++
          (Pass.attempted r.rules.catchPanics (r.cleanupPlan .full)
            (.skipping .cleanup [])).effects ++
          [.tally .durations .cleanup] ++ [.event (closing (r.sweepReport .full))]⟩ := by
  have heq := (t.atStage .cleanupRunning).drain_of_calm hplan
  simp only [runCleanup, refusal?_of_stage (a := .runCleanup) hs, heq]
  rfl

/-- A full cleanup whose panics are all caught, as a whole. -/
theorem Tables.runCleanup_of_calm (t : r.Tables) (hs : r.stage = .ready)
    (hcalm : r.runCleanup.effects.Calm r.rules.catchPanics) :
    r.runCleanup =
      ⟨.value (r.sweepReport .full),
        { r.swept .full ((r.cleanupPlan .full).map Hook.handle) with stage := .done },
        r.sweepOpening .full ++
          (Pass.attempted r.rules.catchPanics (r.cleanupPlan .full)
            (.skipping .cleanup [])).effects ++
          [.tally .durations .cleanup] ++ [.event (closing (r.sweepReport .full))]⟩ :=
  t.runCleanup_through hs (runCleanup_calm hs hcalm)

theorem recast_alike (outcome : Handle → Outcome) (r : Registry) : r.Alike (r.recast outcome) where
  next := rfl
  startup := rfl
  cleanup := by simp only [recast, List.map_map]; rfl
  atExit := by simp only [recast, List.map_map]; rfl

theorem Tables.runCleanup_invoked (t : r.Tables) (hs : r.stage = .ready) (hup : r.Up)
    (hcalm : r.runCleanup.effects.Calm r.rules.catchPanics) :
    ∃ report, r.runCleanup.answer = .value report ∧
      report.invoked = r.fullOrder.map Hook.handle ∧ report.skipped = [] := by
  refine ⟨r.sweepReport .full, by rw [t.runCleanup_of_calm hs hcalm], ?_, ?_⟩
  · simp only [sweepReport, t.cleanupPlan_of_up hup]
  · simp only [sweepReport, t.ineligible_of_up hup, List.map_nil]

/-- A cleanup that gets through has run all that there is to clean up. -/
theorem Sound.runCleanup_whole (sound : r.Sound) (hs : r.stage = .ready) {report : PassReport}
    (ha : r.runCleanup.answer = .value report) :
    report.invoked = r.fullOrder.map Hook.handle ∧
      r.runCleanup.effects.calls.map Prod.fst = report.invoked := by
  have t := sound.toTables
  obtain ⟨hup, hpending⟩ := sound.situation.of_ready hs
  have hplan : ∀ k ∈ r.cleanupPlan .full, ∀ p, k.verdict r.rules.catchPanics ≠ .panicked p := by
    rcases drainAll_cases r.rules.catchPanics (r.cleanupPlan .full) with
      hcalm | ⟨pre, k, post, p, hplan, hpre, hk⟩
    · exact hcalm
    · have hleft := (t.atStage .cleanupRunning).drain_of_panicked hplan hpre hk
      simp [runCleanup, refusal?_of_stage (a := .runCleanup) hs, hleft] at ha
  have hholding : ∀ k ∈ r.cleanupPlan .full, k.callback.isSome := sound.holding_ready hs
  have hrun := t.runCleanup_through hs hplan
  rw [hrun] at ha ⊢
  cases ha
  refine ⟨by simp only [sweepReport, t.cleanupPlan_of_up hup], ?_⟩
  simp [Pass.attempted_calls_handles _ _ hholding, Pass.skipping, sweepReport]

/-- In a registry that is ready every cleanup hook is called, in the one order that the rules
fix, and each is called once. -/
theorem runCleanup_full_order (rules : HookRules) (ops : List Op)
    (hready : ((new rules).run ops).stage = .ready)
    (hcalm : ((new rules).run ops).runCleanup.effects.Calm rules.catchPanics) :
    let r := (new rules).run ops
    (∀ k ∈ r.cleanup, ∀ o, k.releases = some o → o ∈ r.startupOrder) ∧
      ∃ report, r.runCleanup.answer = .value report ∧
        report.invoked = r.fullOrder.map Hook.handle ∧
        report.invoked.Perm ((r.cleanup ++ r.atExit).map Hook.handle) ∧ report.invoked.Nodup ∧
        report.skipped = [] ∧
        r.runCleanup.effects.calls.map Prod.fst = report.invoked ∧
        r.runCleanup.state.stage = .done ∧
        ∀ outcome, (r.recast outcome).runCleanup.effects.Calm rules.catchPanics →
          ∃ other, (r.recast outcome).runCleanup.answer = .value other ∧
            other.invoked = report.invoked := by
  intro r
  have sound : r.Sound := sound_run rules ops
  have hrules : r.rules = rules := run_rules rules ops
  change r.runCleanup.effects.Calm rules.catchPanics at hcalm
  rw [← hrules] at hcalm ⊢
  obtain ⟨hup, hpending⟩ := sound.situation.of_ready hready
  obtain ⟨report, hanswer, hinvoked, hskipped⟩ := sound.runCleanup_invoked hready hup hcalm
  have hperm : report.invoked.Perm ((r.cleanup ++ r.atExit).map Hook.handle) := by
    rw [hinvoked]
    exact (fullOrder_perm r).map Hook.handle
  have hnodup : report.invoked.Nodup := by
    rw [hinvoked, ← sound.cleanupPlan_of_up hup]
    exact sound.plan_nodup .full
  have hcalls : r.runCleanup.effects.calls.map Prod.fst = report.invoked := by
    have hholding : ∀ k ∈ r.cleanupPlan .full, k.callback.isSome := by
      intro k hk
      have hin := mem_hooks_of_plan hk
      exact sound.holding (mem_hooks_of_mem hin) (hpending k hin)
    rw [hinvoked, ← sound.cleanupPlan_of_up hup, sound.runCleanup_of_calm hready hcalm]
    simp [Pass.attempted_calls_handles _ _ hholding, Pass.skipping]
  have hdone : r.runCleanup.state.stage = .done := by rw [sound.runCleanup_of_calm hready hcalm]
  refine ⟨sound.owners, report, hanswer, hinvoked, hperm, hnodup, hskipped, hcalls, hdone, ?_⟩
  intro outcome hcalm'
  have hrecast := (recast_alike outcome r).tables sound.toTables
  obtain ⟨other, hother, hsame, _⟩ := hrecast.runCleanup_invoked hready hup hcalm'
  exact ⟨other, hother, by rw [hsame, hinvoked, fullOrder_recast]⟩

/-- Owners that start in another order than they came in, a failing and a panicking hook. -/
def mixedOps : List Op :=
  let hook (role : Role) (priority : Option Int) (o : Outcome) : Op :=
    .register ⟨role, none, none, priority, some ⟨none, [], o⟩⟩
  [hook .startup (some 5) .ok, hook .startup none .ok, hook (.releasing 1) none .ok,
    hook (.releasing 2) none (.error "stuck"), hook (.releasing 1) none .ok,
    hook (.releasing 2) (some 3) .ok, hook .cleanup none .ok, hook .cleanup (some (-1)) .ok,
    hook .cleanup none (.panic .other), .runStartup, .atExit "first" ⟨none, [], .ok⟩,
    .atExit "second" ⟨none, [], .error "late"⟩]

theorem runCleanup_full_order_mixed :
    ((new {}).run mixedOps).stage = .ready ∧
      ∃ report, ((new {}).run mixedOps).runCleanup.answer = .value report ∧
        report.invoked = [11, 10, 8, 6, 5, 3, 4, 9, 7] := by
  have hready : ((new {}).run mixedOps).stage = .ready := by decide
  obtain ⟨_, report, hanswer, hinvoked, _⟩ := runCleanup_full_order {} mixedOps hready
    fun _ _ _ _ => rfl
  exact ⟨hready, report, hanswer, hinvoked.trans (by decide)⟩

end Registry
end Bookend

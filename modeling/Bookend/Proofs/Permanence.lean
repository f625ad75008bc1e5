import Bookend.Proofs.Integrity
import Mathlib.Data.List.Forall2

namespace Bookend

/-- How far along its life a registry is. -/
def Stage.place : Stage → Nat
  | collecting => 0
  | startupRunning => 1
  | ready => 2
  | cleanupRunning => 3
  | done => 4

/-- What a hook may turn into: itself with another outcome, and that only until a pass has come
to it. -/
structure Hook.Becomes (k a : Hook) : Prop where
  plain : a.plain = k.plain
  final : k.status ≠ .pending → a = k

namespace Hook.Becomes
variable {k a b : Hook}

theorem handle (h : k.Becomes a) : a.handle = k.handle := by
  have hself := congrArg Hook.handle h.plain
  exact hself

theorem refl (k : Hook) : k.Becomes k := ⟨rfl, fun _ => rfl⟩

theorem trans (h : k.Becomes a) (h' : a.Becomes b) : k.Becomes b := by
  refine ⟨h'.plain.trans h.plain, ?_⟩
  intro hreached
  have hfirst : a = k := h.final hreached
  subst hfirst
  exact h'.final hreached

instance : Std.Refl Hook.Becomes := ⟨refl⟩

instance : IsTrans Hook Hook.Becomes := ⟨fun _ _ _ => trans⟩

end Hook.Becomes

theorem insertBehind_sublist (before : α → α → Bool) (a : α) (as : List α) :
    as.Sublist (insertBehind before a as) := by
  induction as with
  | nil => exact List.nil_sublist _
  | cons b bs ih =>
    simp only [insertBehind]
    split
    · exact ih.cons_cons b
    · exact List.sublist_cons_self a _

section
variable {R : α → β → Prop} {as : List α} {bs : List β}

theorem exists_of_sublistForall₂ (h : List.SublistForall₂ R as bs) {a : α} (ha : a ∈ as) :
    ∃ b ∈ bs, R a b := by
  induction h with
  | nil => cases ha
  | cons hr _ ih =>
    rcases List.mem_cons.mp ha with rfl | ha
    · exact ⟨_, List.mem_cons_self, hr⟩
    · obtain ⟨b, hb, hab⟩ := ih ha
      exact ⟨b, List.mem_cons_of_mem _ hb, hab⟩
  | cons_right _ ih =>
    obtain ⟨b, hb, hab⟩ := ih ha
    exact ⟨b, List.mem_cons_of_mem _ hb, hab⟩

/-- What the relation leaves alone stays in order. -/
theorem map_sublist_of_sublistForall₂ {f : α → γ} {g : β → γ} (hfg : ∀ a b, R a b → g b = f a)
    (h : List.SublistForall₂ R as bs) : (as.map f).Sublist (bs.map g) := by
  induction h with
  | nil => exact List.nil_sublist _
  | cons hr _ ih =>
    rw [List.map_cons, List.map_cons, hfg _ _ hr]
    exact ih.cons_cons _
  | cons_right _ ih => exact ih.cons _

end

namespace Registry

/-- What a registry is of an earlier one. Each table holds the hooks that it held, in their order,
and the record of what started has only been added to. -/
structure Lasts (r s : Registry) : Prop where
  startup : List.SublistForall₂ Hook.Becomes r.startup s.startup
  cleanup : List.SublistForall₂ Hook.Becomes r.cleanup s.cleanup
  atExit : List.SublistForall₂ Hook.Becomes r.atExit s.atExit
  started : r.started <+: s.started
  stage : r.stage.place ≤ s.stage.place

section
variable {q r s : Registry} {k : Hook} {h : Handle}

theorem Lasts.refl (r : Registry) : r.Lasts r where
  startup := Std.Refl.refl _
  cleanup := Std.Refl.refl _
  atExit := Std.Refl.refl _
  started := List.prefix_refl _
  stage := Nat.le_refl _

theorem Lasts.trans (h : q.Lasts r) (h' : r.Lasts s) : q.Lasts s where
  startup := IsTrans.trans _ _ _ h.startup h'.startup
  cleanup := IsTrans.trans _ _ _ h.cleanup h'.cleanup
  atExit := IsTrans.trans _ _ _ h.atExit h'.atExit
  started := h.started.trans h'.started
  stage := Nat.le_trans h.stage h'.stage

/-- A table whose hooks are the same, and which has lost none that a pass had come to. -/
theorem becomes_of_plain {as bs : List Hook} (t : s.Tables) (hin : ∀ a ∈ bs, a ∈ s.hooks)
    (hplain : bs.map Hook.plain = as.map Hook.plain)
    (hkept : ∀ k ∈ as, k.status ≠ .pending → k ∈ s.hooks) :
    List.SublistForall₂ Hook.Becomes as bs := by
  induction as generalizing bs with
  | nil => exact .nil
  | cons k as ih =>
    cases bs with
    | nil => cases hplain
    | cons a bs =>
      obtain ⟨hself, hrest⟩ := List.cons.inj hplain
      obtain ⟨ha, hbs⟩ := List.forall_mem_cons.mp hin
      obtain ⟨hk, has⟩ := List.forall_mem_cons.mp hkept
      have hhandle := congrArg Hook.handle hself
      refine .cons ⟨hself, ?_⟩ (ih hbs hrest has)
      intro hreached
      -- both stand in the tables, under one handle
      exact t.handle_inj ha (hk hreached) hhandle

theorem insert_sublist (r : Registry) (k : Hook) :
    r.startup.Sublist (r.insert k).startup ∧ r.cleanup.Sublist (r.insert k).cleanup := by
  unfold insert
  split
  · exact ⟨insertBehind_sublist _ k _, List.Sublist.refl _⟩
  · exact ⟨List.Sublist.refl _, List.sublist_append_left _ _⟩

/-- A pass starts from where nothing is on record, or leaves the record as it is. -/
theorem Step.started_prefix (h : r.Step s) (sound : r.Sound) : r.started <+: s.started := by
  have hnone (hs : r.stage = .collecting) (t : Registry) : r.started <+: t.started := by
    rw [(sound.situation.of_collecting hs).2.2]
    exact List.nil_prefix
  cases h with
  | refused => exact List.prefix_refl _
  | registered stage => exact hnone stage _
  | handlerAdded => exact List.prefix_refl _
  | started stage => exact hnone stage _
  | startupLeft stage => exact hnone stage _
  | unwound stage => exact hnone stage _
  | unwindLeft stage => exact hnone stage _
  | abandoned stage => exact hnone stage _
  | cleaned _ sweep =>
    rw [sweep.2]
    exact List.prefix_refl _
  | cleanupLeft _ sweep =>
    obtain ⟨_, _, _, _, _, _, _, rfl⟩ := sweep
    exact List.prefix_refl _

theorem Step.place_le (h : r.Step s) : r.stage.place ≤ s.stage.place := by
  have hfirst (hs : r.stage = .collecting) (t : Registry) : r.stage.place ≤ t.stage.place := by
    rw [hs]
    exact Nat.zero_le _
  cases h with
  | refused => exact Nat.le_refl _
  | registered stage => exact hfirst stage _
  | handlerAdded => exact Nat.le_refl _
  | started stage => exact hfirst stage _
  | startupLeft stage => exact hfirst stage _
  | unwound stage => exact hfirst stage _
  | unwindLeft stage => exact hfirst stage _
  | abandoned stage => exact hfirst stage _
  | cleaned stage =>
    rw [stage]
    exact Nat.le_add_right 2 2
  | cleanupLeft stage sweep =>
    obtain ⟨_, _, _, _, _, _, _, rfl⟩ := sweep
    rw [stage]
    exact Nat.le_succ 2

/-- A call keeps every hook under its handle and in its table, whatever comes of it. -/
theorem Step.lasts (h : r.Step s) (sound : r.Sound) : r.Lasts s := by
  have hstarted := h.started_prefix sound
  have hstage := h.place_le
  rcases h.grows with alike | ⟨k, _, _, _, rfl⟩ | ⟨k, _, _, _, _, rfl⟩
  · have after := h.tables sound.toTables
    have hkept : ∀ k ∈ r.hooks, k.status ≠ .pending → k ∈ s.hooks :=
      fun k hk hreached => h.keeps sound hk hreached
    refine ⟨?_, ?_, ?_, hstarted, hstage⟩
    · exact becomes_of_plain after (fun a ha => mem_hooks.mpr (Or.inl ha)) alike.startup
        fun k hk => hkept k (mem_hooks.mpr (Or.inl hk))
    · exact becomes_of_plain after (fun a ha => mem_hooks.mpr (Or.inr (Or.inl ha))) alike.cleanup
        fun k hk => hkept k (mem_hooks.mpr (Or.inr (Or.inl hk)))
    · exact becomes_of_plain after (fun a ha => mem_hooks.mpr (Or.inr (Or.inr ha))) alike.atExit
        fun k hk => hkept k (mem_hooks.mpr (Or.inr (Or.inr hk)))
  · obtain ⟨hup, hdown⟩ := insert_sublist r k
    refine ⟨hup.sublistForall₂, hdown.sublistForall₂, ?_, hstarted, hstage⟩
    rw [(insert_frame r k).2.1]
    exact Std.Refl.refl _
  · refine ⟨Std.Refl.refl _, Std.Refl.refl _, ?_, hstarted, hstage⟩
    exact (List.sublist_append_left r.atExit [k]).sublistForall₂

theorem Sound.run_lasts (sound : r.Sound) (ops : List Op) : r.Lasts (r.run ops) := by
  refine sound.run_keeps (p := r.Lasts) (Lasts.refl r) ?_ ops
  intro s op hs hlasts
  exact hlasts.trans ((hs.perform_step op).lasts hs)

/-- Each hook of a registry is in the same table of a later one. -/
theorem Lasts.exists_becomes (h : r.Lasts s) (hk : k ∈ r.hooks) :
    ∃ a ∈ s.hooks, k.Becomes a ∧
      (k ∈ r.startup ∧ a ∈ s.startup ∨ k ∈ r.cleanup ∧ a ∈ s.cleanup ∨
        k ∈ r.atExit ∧ a ∈ s.atExit) := by
  rcases mem_hooks.mp hk with hk | hk | hk
  · obtain ⟨a, ha, hbecomes⟩ := exists_of_sublistForall₂ h.startup hk
    exact ⟨a, mem_hooks.mpr (Or.inl ha), hbecomes, Or.inl ⟨hk, ha⟩⟩
  · obtain ⟨a, ha, hbecomes⟩ := exists_of_sublistForall₂ h.cleanup hk
    exact ⟨a, mem_hooks.mpr (Or.inr (Or.inl ha)), hbecomes, Or.inr (Or.inl ⟨hk, ha⟩)⟩
  · obtain ⟨a, ha, hbecomes⟩ := exists_of_sublistForall₂ h.atExit hk
    exact ⟨a, mem_hooks.mpr (Or.inr (Or.inr ha)), hbecomes, Or.inr (Or.inr ⟨hk, ha⟩)⟩

/-- No hook that is known moves to another place in the running order, and none joins it from
another table. -/
theorem Lasts.startupOrder_filter (h : r.Lasts s) (before : r.Tables) (after : s.Tables) :
    s.startupOrder.filter (fun i => (r.hook? i).isSome) = r.startupOrder := by
  have hsublist : r.startupOrder.Sublist s.startupOrder :=
    map_sublist_of_sublistForall₂ (fun _ _ hbecomes => hbecomes.handle) h.startup
  have hself : r.startupOrder.filter (fun i => (r.hook? i).isSome) = r.startupOrder := by
    apply List.filter_eq_self.mpr
    intro i hi
    obtain ⟨k, hk, rfl⟩ := List.mem_map.mp hi
    rw [before.hook?_iff.mpr ⟨mem_hooks.mpr (Or.inl hk), rfl⟩]
    rfl
  have hsubset : s.startupOrder.filter (fun i => (r.hook? i).isSome) ⊆ r.startupOrder := by
    intro i hi
    obtain ⟨hup, hknown⟩ := List.mem_filter.mp hi
    obtain ⟨k, hfound⟩ := Option.isSome_iff_exists.mp hknown
    obtain ⟨hk, rfl⟩ := before.hook?_iff.mp hfound
    obtain ⟨a, _, hbecomes, hplace⟩ := h.exists_becomes hk
    rcases hplace with ⟨hk, _⟩ | hdown
    · exact List.mem_map_of_mem hk
    · have ha : a ∈ s.cleanup ++ s.atExit :=
        List.mem_append.mpr (hdown.imp And.right And.right)
      have hboth := List.mem_map_of_mem (f := Hook.handle) ha
      rw [hbecomes.handle] at hboth
      exact absurd hboth (after.startup_disjoint hup)
  have hnodup : (s.startupOrder.filter fun i => (r.hook? i).isSome).Nodup :=
    (after.startup_once (List.prefix_refl _)).filter _
  have hlength := (List.subperm_of_subset hnodup hsubset).length_le
  have hkept := hsublist.filter fun i => (r.hook? i).isSome
  rw [hself] at hkept
  exact (hkept.eq_of_length_le hlength).symm

end

/-- Hooks are permanent and what becomes of them is final. Whatever calls follow, and however they
end, a hook stays under its handle in its table as it was registered, startup hooks keep their
order, and a status stays once it is not pending. The record of what started only grows at its
end, and the stage never goes back. -/
theorem run_permanent (rules : HookRules) (ops later : List Op) :
    let r := (new rules).run ops
    let s := r.run later
    (∀ h k, r.hook? h = some k →
      ∃ a, s.hook? h = some a ∧
        (k ∈ r.startup ∧ a ∈ s.startup ∨ k ∈ r.cleanup ∧ a ∈ s.cleanup ∨
          k ∈ r.atExit ∧ a ∈ s.atExit) ∧
        a.name = k.name ∧ a.module = k.module ∧ a.phase = k.phase ∧ a.priority = k.priority ∧
        a.releases = k.releases ∧ (k.status ≠ .pending → a.status = k.status)) ∧
      s.startupOrder.filter (fun h => (r.hook? h).isSome) = r.startupOrder ∧
      r.started <+: s.started ∧ r.stage.place ≤ s.stage.place := by
  intro r s
  have sound : r.Sound := sound_run rules ops
  have after : s.Tables := (sound.run later).toTables
  have lasts : r.Lasts s := sound.run_lasts later
  refine ⟨?_, lasts.startupOrder_filter sound.toTables after, lasts.started, lasts.stage⟩
  intro h k hfound
  obtain ⟨hk, rfl⟩ := sound.hook?_iff.mp hfound
  obtain ⟨a, ha, hbecomes, hplace⟩ := lasts.exists_becomes hk
  have hname := congrArg Hook.name hbecomes.plain
  have hmodule := congrArg Hook.module hbecomes.plain
  have hphase := congrArg Hook.phase hbecomes.plain
  have hpriority := congrArg Hook.priority hbecomes.plain
  have hreleases := congrArg Hook.releases hbecomes.plain
  refine ⟨a, after.hook?_iff.mpr ⟨ha, hbecomes.handle⟩, hplace, hname, hmodule, hphase, hpriority,
    hreleases, ?_⟩
  intro hreached
  rw [hbecomes.final hreached]

/-- A later registration goes in front, and a panic leaves the second hook in the middle. -/
def haltedOps : List Op :=
  [.register ⟨.startup, some "db", some "store", none, some ⟨none, [], .panic (.text "gone")⟩⟩,
    .register ⟨.startup, none, none, some (-1), some ⟨none, [], .ok⟩⟩, .runStartup]

theorem run_permanent_halted :
    let r := (new { catchPanics := false }).run haltedOps
    let s := r.run [.runCleanup, .runStartup]
    r.startupOrder = [2, 1] ∧ r.started = [2] ∧ r.status? 1 = some .running ∧
      ∃ a, s.hook? 1 = some a ∧ a.name = "db" ∧ a.module = some "store" ∧ a.status = .running := by
  obtain ⟨hhooks, _⟩ :=
    run_permanent { catchPanics := false } haltedOps [.runCleanup, .runStartup]
  obtain ⟨a, ha, _, hname, hmodule, _, _, _, hfinal⟩ :=
    hhooks 1 ⟨1, .startup, "db", some "store", none, none, .running⟩ (by decide)
  exact ⟨by decide, by decide, by decide, a, ha, hname, hmodule, hfinal (by decide)⟩

end Registry
end Bookend

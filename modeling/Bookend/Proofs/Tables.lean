import Bookend.Registry.Run
import Bookend.Proofs.Order
import Bookend.Proofs.Pass
import Mathlib.Data.List.Nodup
import Mathlib.Data.List.Range

namespace Bookend

/-- Priority first, then the order of registration. -/
def Hook.orderKey (k : Hook) : Int ×ₗ Handle := toLex (k.rank, k.handle)

theorem Hook.orderKey_le {a b : Hook} :
    a.orderKey ≤ b.orderKey ↔ a.rank < b.rank ∨ a.rank = b.rank ∧ a.handle ≤ b.handle := by
  simp [orderKey, Prod.Lex.toLex_le_toLex]

theorem Hook.precedes_iff {a b : Hook} : a.precedes b = true ↔ a.orderKey ≤ b.orderKey := by
  simp [orderKey_le, precedes]

namespace Registry

/-- What the tables keep at any time, whatever became of their hooks. -/
structure Tables (r : Registry) : Prop where
  numbered : ∃ n, r.next = n + 1 ∧ (r.hooks.map Hook.handle).Perm (List.range' 1 n)
  startupRoles : ∀ k ∈ r.startup, k.role = .startup
  cleanupRoles : ∀ k ∈ r.cleanup, k.phase = .cleanup
  atExitRoles : ∀ k ∈ r.atExit, k.role = .cleanup ∧ k.priority = none
  owners : ∀ k ∈ r.cleanup, ∀ o, k.releases = some o → o ∈ r.startupOrder
  runningOrder : r.startup.Pairwise fun a b => a.orderKey ≤ b.orderKey
  cleanupByAge : r.cleanup.Pairwise fun a b => a.handle < b.handle
  atExitByAge : r.atExit.Pairwise fun a b => a.handle < b.handle

/-- The same hooks in the same places, passes aside. -/
structure Alike (r s : Registry) : Prop where
  next : s.next = r.next
  startup : s.startup.map Hook.plain = r.startup.map Hook.plain
  cleanup : s.cleanup.map Hook.plain = r.cleanup.map Hook.plain
  atExit : s.atExit.map Hook.plain = r.atExit.map Hook.plain

theorem map_of_plain {as bs : List Hook} (h : as.map Hook.plain = bs.map Hook.plain)
    (f : Hook → α) : as.map (fun k => f k.plain) = bs.map fun k => f k.plain := by
  simpa [List.map_map, Function.comp_def] using congrArg (List.map f) h

theorem forall_of_plain {as bs : List Hook} (h : as.map Hook.plain = bs.map Hook.plain)
    {p : Hook → Prop} (hb : ∀ k ∈ bs, p k.plain) : ∀ k ∈ as, p k.plain := by
  have hm : ∀ k ∈ bs.map Hook.plain, p k := List.forall_mem_map.mpr hb
  rw [← h] at hm
  exact List.forall_mem_map.mp hm

theorem pairwise_of_plain {as bs : List Hook} (h : as.map Hook.plain = bs.map Hook.plain)
    {p : Hook → Hook → Prop} (hb : bs.Pairwise fun a b => p a.plain b.plain) :
    as.Pairwise fun a b => p a.plain b.plain := by
  have hm : (bs.map Hook.plain).Pairwise p := List.pairwise_map.mpr hb
  rw [← h] at hm
  exact List.pairwise_map.mp hm

namespace Alike
variable {r s : Registry}

theorem startupOrder (h : r.Alike s) : s.startupOrder = r.startupOrder :=
  map_of_plain h.startup Hook.handle

theorem cleanupHandles (h : r.Alike s) : s.cleanup.map Hook.handle = r.cleanup.map Hook.handle :=
  map_of_plain h.cleanup Hook.handle

theorem atExitHandles (h : r.Alike s) : s.atExit.map Hook.handle = r.atExit.map Hook.handle :=
  map_of_plain h.atExit Hook.handle

theorem handles (h : r.Alike s) : s.hooks.map Hook.handle = r.hooks.map Hook.handle := by
  have hs : s.startup.map Hook.handle = r.startup.map Hook.handle := h.startupOrder
  simp only [hooks, List.map_append, hs, h.cleanupHandles, h.atExitHandles]

theorem tables (h : r.Alike s) (t : r.Tables) : s.Tables where
  numbered := by rw [h.next, h.handles]; exact t.numbered
  startupRoles := forall_of_plain (p := fun k => k.role = .startup) h.startup t.startupRoles
  cleanupRoles := forall_of_plain (p := fun k => k.phase = .cleanup) h.cleanup t.cleanupRoles
  atExitRoles := forall_of_plain (p := fun k => k.role = .cleanup ∧ k.priority = none) h.atExit
    t.atExitRoles
  owners := by
    rw [h.startupOrder]
    exact forall_of_plain (p := fun k => ∀ o, k.releases = some o → o ∈ r.startupOrder) h.cleanup
      t.owners
  runningOrder := pairwise_of_plain (p := fun a b => a.orderKey ≤ b.orderKey) h.startup
    t.runningOrder
  cleanupByAge := pairwise_of_plain (p := fun a b => a.handle < b.handle) h.cleanup t.cleanupByAge
  atExitByAge := pairwise_of_plain (p := fun a b => a.handle < b.handle) h.atExit t.atExitByAge

end Alike

theorem tables_new (rules : HookRules) : (new rules).Tables where
  numbered := ⟨0, rfl, List.Perm.refl _⟩
  startupRoles := by simp [new]
  cleanupRoles := by simp [new]
  atExitRoles := by simp [new]
  owners := by simp [new]
  runningOrder := List.Pairwise.nil
  cleanupByAge := List.Pairwise.nil
  atExitByAge := List.Pairwise.nil

theorem hooks_startup_perm (r : Registry) (k : Hook) :
    { r with next := r.next + 1, startup := insertBehind runsBefore k r.startup }.hooks.Perm
      (k :: r.hooks) :=
  ((insertBehind_perm runsBefore k r.startup).append_right _).append_right _

theorem hooks_cleanup_perm (r : Registry) (k : Hook) :
    { r with next := r.next + 1, cleanup := r.cleanup ++ [k] }.hooks.Perm (k :: r.hooks) := by
  simp only [hooks, List.append_assoc, List.singleton_append]
  exact (List.perm_middle.append_left r.startup).trans List.perm_middle

theorem hooks_atExit_perm (r : Registry) (k : Hook) :
    { r with next := r.next + 1, atExit := r.atExit ++ [k] }.hooks.Perm (k :: r.hooks) := by
  simp only [hooks, ← List.append_assoc]
  exact List.perm_append_singleton _ _

@[simp] theorem insert_next (r : Registry) (k : Hook) : (r.insert k).next = r.next + 1 := by
  unfold insert
  split <;> rfl

theorem hooks_insert_perm (r : Registry) (k : Hook) : (r.insert k).hooks.Perm (k :: r.hooks) := by
  unfold insert
  split
  · exact hooks_startup_perm r k
  · exact hooks_cleanup_perm r k

namespace Tables
variable {r : Registry}

theorem nodup (t : r.Tables) : (r.hooks.map Hook.handle).Nodup := by
  obtain ⟨n, _, hp⟩ := t.numbered
  exact hp.nodup_iff.mpr List.nodup_range'

theorem handle_lt (t : r.Tables) : ∀ k ∈ r.hooks, k.handle < r.next := by
  obtain ⟨n, hn, hp⟩ := t.numbered
  intro k hk
  have hm := hp.mem_iff.mp (List.mem_map_of_mem hk)
  simp only [List.mem_range'_1] at hm
  lia

theorem startup_phase (t : r.Tables) :
    ∀ k ∈ r.startup, k.phase = .startup ∧ k.releases = none := by
  intro k hk
  simp [Hook.phase, Hook.releases, t.startupRoles k hk, Role.phase, Role.releases]

theorem cleanup_phase (t : r.Tables) : ∀ k ∈ r.cleanup ++ r.atExit, k.phase = .cleanup := by
  refine List.forall_mem_append.mpr ⟨t.cleanupRoles, fun k hk => ?_⟩
  simp [Hook.phase, (t.atExitRoles k hk).1, Role.phase]

theorem startup_disjoint (t : r.Tables) :
    (r.startup.map Hook.handle).Disjoint ((r.cleanup ++ r.atExit).map Hook.handle) := by
  have hn := t.nodup
  rw [hooks, List.append_assoc, List.map_append] at hn
  exact List.disjoint_of_nodup_append hn

theorem cleanup_disjoint (t : r.Tables) :
    (r.cleanup.map Hook.handle).Disjoint (r.atExit.map Hook.handle) := by
  have hn := t.nodup
  rw [hooks, List.append_assoc, List.map_append, List.map_append] at hn
  exact List.disjoint_of_nodup_append (List.nodup_append.mp hn).2.1

theorem handle_inj (t : r.Tables) {a b : Hook} (ha : a ∈ r.hooks) (hb : b ∈ r.hooks)
    (he : a.handle = b.handle) : a = b :=
  List.inj_on_of_nodup_map t.nodup ha hb he

/-- A hook is found under its handle, and no other is. -/
theorem hook?_iff (t : r.Tables) {k : Hook} {h : Handle} :
    r.hook? h = some k ↔ k ∈ r.hooks ∧ k.handle = h := by
  constructor
  · intro hfound
    exact ⟨List.mem_of_find?_eq_some hfound, by simpa using List.find?_some hfound⟩
  · rintro ⟨hk, rfl⟩
    have hfound : (r.hook? k.handle).isSome :=
      List.find?_isSome.mpr ⟨k, hk, beq_self_eq_true k.handle⟩
    obtain ⟨a, ha⟩ := Option.isSome_iff_exists.mp hfound
    have hself : a.handle = k.handle := by simpa using List.find?_some ha
    have hsame : a = k := t.handle_inj (List.mem_of_find?_eq_some ha) hk hself
    rw [ha, hsame]

theorem status?_of_mem (t : r.Tables) {k : Hook} (hk : k ∈ r.hooks) :
    r.status? k.handle = some k.status := by
  rw [status?, t.hook?_iff.mpr ⟨hk, rfl⟩]
  rfl

/-- A hook with the next number may join any table whose hooks it resembles. -/
theorem numbered_add (t : r.Tables) {k : Hook} {s : Registry} (hk : k.handle = r.next)
    (hnext : s.next = r.next + 1) (hp : s.hooks.Perm (k :: r.hooks)) :
    ∃ n, s.next = n + 1 ∧ (s.hooks.map Hook.handle).Perm (List.range' 1 n) := by
  obtain ⟨n, hn, hr⟩ := t.numbered
  refine ⟨n + 1, by lia, (hp.map Hook.handle).trans ?_⟩
  rw [List.range'_1_concat, List.map_cons]
  have he : k.handle = 1 + n := by lia
  rw [he]
  exact (hr.cons (1 + n)).trans (List.perm_append_singleton _ _).symm

theorem runningOrder_insert (t : r.Tables) {k : Hook} (hk : k.handle = r.next) :
    (insertBehind runsBefore k r.startup).Pairwise fun a b => a.orderKey ≤ b.orderKey := by
  refine insertBehind_pairwise ?_ t.runningOrder
  intro b hb
  have hlt := t.handle_lt b (by simp [hooks, hb])
  simp only [runsBefore, decide_eq_true_eq, Hook.orderKey_le]
  lia

theorem byAge_append {ks : List Hook} (hs : ks.Pairwise fun a b => a.handle < b.handle) {k : Hook}
    (hlt : ∀ a ∈ ks, a.handle < k.handle) :
    (ks ++ [k]).Pairwise fun a b => a.handle < b.handle := by
  refine List.pairwise_append.mpr ⟨hs, List.pairwise_singleton _ k, ?_⟩
  intro a ha b hb
  rw [List.mem_singleton.mp hb]
  exact hlt a ha

/-- A startup hook goes in behind its equals, so the table stays in running order. -/
theorem insert_startup (t : r.Tables) {k : Hook} (hk : k.handle = r.next)
    (hrole : k.role = .startup) :
    { r with next := r.next + 1, startup := insertBehind runsBefore k r.startup }.Tables where
  numbered := t.numbered_add hk rfl (hooks_startup_perm r k)
  startupRoles := by
    intro a ha
    rcases List.mem_cons.mp ((insertBehind_perm _ _ _).mem_iff.mp ha) with rfl | ha
    · exact hrole
    · exact t.startupRoles a ha
  cleanupRoles := t.cleanupRoles
  atExitRoles := t.atExitRoles
  owners := by
    intro a ha o ho
    obtain ⟨b, hb, rfl⟩ := List.mem_map.mp (t.owners a ha o ho)
    exact List.mem_map_of_mem ((insertBehind_perm _ _ _).mem_iff.mpr (List.mem_cons_of_mem _ hb))
  runningOrder := t.runningOrder_insert hk
  cleanupByAge := t.cleanupByAge
  atExitByAge := t.atExitByAge

theorem insert_cleanup (t : r.Tables) {k : Hook} (hk : k.handle = r.next)
    (hphase : k.phase = .cleanup) (howner : ∀ o, k.releases = some o → o ∈ r.startupOrder) :
    { r with next := r.next + 1, cleanup := r.cleanup ++ [k] }.Tables where
  numbered := t.numbered_add hk rfl (hooks_cleanup_perm r k)
  startupRoles := t.startupRoles
  cleanupRoles := List.forall_mem_append.mpr ⟨t.cleanupRoles, by simpa using hphase⟩
  atExitRoles := t.atExitRoles
  owners := List.forall_mem_append.mpr ⟨t.owners, List.forall_mem_singleton.mpr howner⟩
  runningOrder := t.runningOrder
  cleanupByAge := byAge_append t.cleanupByAge fun a ha => by
    rw [hk]; exact t.handle_lt a (by simp [hooks, ha])
  atExitByAge := t.atExitByAge

theorem insert_atExit (t : r.Tables) {k : Hook} (hk : k.handle = r.next)
    (hrole : k.role = .cleanup) (hpriority : k.priority = none) :
    { r with next := r.next + 1, atExit := r.atExit ++ [k] }.Tables where
  numbered := t.numbered_add hk rfl (hooks_atExit_perm r k)
  startupRoles := t.startupRoles
  cleanupRoles := t.cleanupRoles
  atExitRoles := List.forall_mem_append.mpr ⟨t.atExitRoles, by simpa using ⟨hrole, hpriority⟩⟩
  owners := t.owners
  runningOrder := t.runningOrder
  cleanupByAge := t.cleanupByAge
  atExitByAge := byAge_append t.atExitByAge fun a ha => by
    rw [hk]; exact t.handle_lt a (by simp [hooks, ha])

theorem insert (t : r.Tables) {k : Hook} (hk : k.handle = r.next)
    (howner : ∀ o, k.releases = some o → o ∈ r.startupOrder) : (r.insert k).Tables := by
  cases hp : k.phase with
  | startup =>
    have hrole : k.role = .startup := by
      cases hr : k.role <;> simp [Hook.phase, Role.phase, hr] at hp ⊢
    simp only [Registry.insert, hp]
    exact t.insert_startup hk hrole
  | cleanup =>
    simp only [Registry.insert, hp]
    exact t.insert_cleanup hk hp howner

end Tables
end Registry
end Bookend

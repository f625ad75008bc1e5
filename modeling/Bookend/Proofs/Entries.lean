import Bookend.Proofs.Integrity
import Bookend.Proofs.Once

namespace Bookend

/-- What a call wants to have registered. -/
def Op.spec? : Op → Option Spec
  | register s => some s
  | atExit name c => some (((Spec.ofRole .cleanup).named name).calling c)
  | runStartup | runCleanup => none

/-- A registration that was accepted: what was asked for, and the handle given for it. -/
structure Entry where
  handle : Handle
  spec : Spec
  deriving DecidableEq, Repr

namespace Entry

def phase (e : Entry) : Phase := e.spec.role.phase

/-- The priority asked for, or none, which counts as zero; then the order of registration. -/
def orderKey (e : Entry) : Int ×ₗ Handle := toLex (e.spec.priority.getD 0, e.handle)

/-- The name asked for, or one that tells the handle. -/
def name (e : Entry) : String := e.spec.name.getD ("hook-" ++ toString e.handle)

/-- What comes of calling the hook. -/
def outcome? (e : Entry) : Option Outcome := e.spec.callback.map Callback.outcome

def call? (e : Entry) : Option (Handle × Callback) := e.spec.callback.map fun c => (e.handle, c)

/-- The hook as it goes into the tables. -/
def hook (e : Entry) : Hook where
  handle := e.handle
  role := e.spec.role
  name := e.name
  module := e.spec.module
  priority := e.spec.priority
  callback := e.spec.callback
  status := .pending

theorem hook_eq_ofSpec {e : Entry} {c : Callback} (h : e.spec.callback = some c) :
    e.hook = .ofSpec e.handle e.spec c := by
  simp only [hook, h]
  rfl

end Entry

/-- The entry that came of a call. -/
def Op.enters? (op : Op) (a : Ending Answer) : Option Entry :=
  match a, op.spec? with
  | .value (.handle h), some s => some ⟨h, s⟩
  | _, _ => none

namespace Registry

/-- What a list of calls registered, in the order of the calls. -/
def registered (r : Registry) (ops : List Op) : List Entry :=
  (r.history ops).filterMap fun call => call.1.enters? call.2.answer

/-- The hooks of a phase. -/
def ofPhase (r : Registry) : Phase → List Hook
  | .startup => r.startup
  | .cleanup => r.cleanup ++ r.atExit

/-- The tables hold what was registered, and whatever no pass has come to is as it was then. -/
structure Holds (r : Registry) (es : List Entry) : Prop where
  same : (r.hooks.map Hook.plain).Perm (es.map fun e => e.hook.plain)
  pending : ∀ k ∈ r.hooks, k.status = .pending → ∃ e ∈ es, k = e.hook

variable {r s : Registry} {op : Op} {es : List Entry}

theorem Tables.filter_phase (t : r.Tables) (p : Phase) :
    r.hooks.filter (·.phase = p) = r.ofPhase p := by
  have hup (k : Hook) (hk : k ∈ r.startup) : k.phase = .startup := (t.startup_phase k hk).1
  rw [hooks, List.append_assoc, List.filter_append]
  cases p with
  | startup =>
    rw [List.filter_eq_self.mpr fun k hk => decide_eq_true (hup k hk),
      List.filter_eq_nil_iff.mpr fun k hk => by simp [t.cleanup_phase k hk], List.append_nil]
    rfl
  | cleanup =>
    rw [List.filter_eq_nil_iff.mpr fun k hk => by simp [hup k hk],
      List.filter_eq_self.mpr fun k hk => decide_eq_true (t.cleanup_phase k hk), List.nil_append]
    rfl

theorem registered_append (r : Registry) (ops more : List Op) :
    r.registered (ops ++ more) = r.registered ops ++ (r.run ops).registered more := by
  simp [registered, history_append]

theorem registered_single (r : Registry) (op : Op) :
    r.registered [op] = (op.enters? (r.perform op).answer).toList := by
  cases h : op.enters? (r.perform op).answer <;> simp [registered, h]

theorem enters?_of_idle {a : Ending Answer} (h : op.spec? = none) : op.enters? a = none := by
  unfold Op.enters?
  rw [h]
  split
  · contradiction
  · rfl

/-- A call keeps the hooks in their places, or it adds the one that it answers for. -/
theorem Tables.perform_entry (t : r.Tables) (op : Op) :
    (op.enters? (r.perform op).answer = none ∧ r.Alike (r.perform op).state) ∨
      ∃ e, op.enters? (r.perform op).answer = some e ∧ e.spec.callback.isSome ∧
        (r.perform op).state.hooks.Perm (e.hook :: r.hooks) := by
  have hself : r.Alike r := ⟨rfl, rfl, rfl, rfl⟩
  cases op with
  | register spec =>
    cases hv : r.vet spec with
    | error e =>
      rw [perform_of_fault hv]
      exact Or.inl ⟨rfl, hself⟩
    | ok c =>
      have hc := vet_callback hv
      rw [perform_of_vetted hv]
      refine Or.inr ⟨⟨r.next, spec⟩, rfl, by simp [hc], ?_⟩
      rw [Entry.hook_eq_ofSpec hc]
      exact hooks_insert_perm r _
  | atExit name c =>
    by_cases hs : r.stage = .ready
    · rw [perform_of_ready hs]
      exact Or.inr ⟨⟨r.next, _⟩, rfl, rfl, hooks_atExit_perm r _⟩
    · rw [perform_refused hs]
      exact Or.inl ⟨rfl, hself⟩
  | runStartup => exact Or.inl ⟨enters?_of_idle rfl, t.runStartup_step.alike (runStartup_next r)⟩
  | runCleanup => exact Or.inl ⟨enters?_of_idle rfl, t.runCleanup_step.alike (runCleanup_next r)⟩

theorem Alike.hooks_plain (h : r.Alike s) : s.hooks.map Hook.plain = r.hooks.map Hook.plain := by
  simp only [hooks, List.map_append, h.startup, h.cleanup, h.atExit]

/-- What is pending after a call that added nothing was so before. -/
theorem Sound.pending_of_alike (sound : r.Sound) (op : Op) (alike : r.Alike (r.perform op).state)
    {k : Hook} (hk : k ∈ (r.perform op).state.hooks) (hp : k.status = .pending) : k ∈ r.hooks := by
  obtain ⟨htries, _⟩ := sound.perform_tries op
  have after := (sound.perform op).toTables
  have hhandle : k.handle ∈ r.hooks.map Hook.handle := by
    rw [← alike.handles]
    exact List.mem_map_of_mem hk
  obtain ⟨a, ha, hak⟩ := List.mem_map.mp hhandle
  by_cases htried : a ∈ r.attempts op
  · have hsame := after.handle_inj (htries.tried a htried) hk (by simpa using hak)
    rw [← hsame, Hook.tried_status] at hp
    exact absurd hp (Verdict.status_called _).not_pending
  · rcases htries.others a ha htried with hkept | hskipped
    · exact after.handle_inj hkept hk hak ▸ ha
    · have hsame := after.handle_inj hskipped hk (by simpa using hak)
      rw [← hsame] at hp
      cases hp

theorem Holds.perform (h : r.Holds es) (sound : r.Sound) (op : Op) :
    (r.perform op).state.Holds (es ++ (op.enters? (r.perform op).answer).toList) := by
  rcases sound.toTables.perform_entry op with ⟨hnone, alike⟩ | ⟨e, hsome, _, hperm⟩
  · rw [hnone, Option.toList_none, List.append_nil]
    refine ⟨alike.hooks_plain ▸ h.same, fun k hk hp => ?_⟩
    exact h.pending k (sound.pending_of_alike op alike hk hp) hp
  · rw [hsome, Option.toList_some]
    refine ⟨?_, fun k hk hp => ?_⟩
    · rw [List.map_append]
      exact (hperm.map Hook.plain).trans
        ((h.same.cons _).trans (List.perm_append_singleton _ _).symm)
    · rcases List.mem_cons.mp (hperm.mem_iff.mp hk) with rfl | hk
      · exact ⟨e, by simp, rfl⟩
      · obtain ⟨a, ha, rfl⟩ := h.pending k hk hp
        exact ⟨a, List.mem_append_left _ ha, rfl⟩

theorem holds_run (rules : HookRules) (ops : List Op) :
    ((new rules).run ops).Holds ((new rules).registered ops) := by
  induction ops using List.reverseRecOn with
  | nil => exact ⟨List.Perm.refl _, by simp [new, hooks, run]⟩
  | append_singleton ops op ih =>
    rw [run_append, registered_append, registered_single]
    exact ih.perform (sound_run rules ops) op

/-- Nothing is registered without a callback. -/
theorem registered_callbacks (rules : HookRules) (ops : List Op) :
    ∀ e ∈ (new rules).registered ops, e.spec.callback.isSome := by
  induction ops using List.reverseRecOn with
  | nil => simp [registered]
  | append_singleton ops op ih =>
    rw [registered_append, registered_single]
    refine List.forall_mem_append.mpr ⟨ih, ?_⟩
    rcases (sound_run rules ops).toTables.perform_entry op with ⟨hnone, _⟩ | ⟨e, hsome, hc, _⟩
    · simp [hnone]
    · simpa [hsome] using hc

namespace Holds

theorem handles_perm (h : r.Holds es) : (r.hooks.map Hook.handle).Perm (es.map Entry.handle) := by
  simpa [List.map_map, Function.comp_def, Hook.plain, Entry.hook] using h.same.map Hook.handle

theorem nodup (h : r.Holds es) (t : r.Tables) : (es.map Entry.handle).Nodup :=
  h.handles_perm.nodup_iff.mp t.nodup

theorem entry_inj (h : r.Holds es) (t : r.Tables) {a b : Entry} (ha : a ∈ es) (hb : b ∈ es)
    (he : a.handle = b.handle) : a = b :=
  List.inj_on_of_nodup_map (h.nodup t) ha hb he

/-- Before any pass the tables hold just what was registered. -/
theorem hooks_perm (h : r.Holds es) (t : r.Tables) (hp : ∀ k ∈ r.hooks, k.status = .pending) :
    r.hooks.Perm (es.map Entry.hook) := by
  have hsub : r.hooks ⊆ es.map Entry.hook := by
    intro k hk
    obtain ⟨e, he, rfl⟩ := h.pending k hk (hp k hk)
    exact List.mem_map_of_mem he
  have hlength : (es.map Entry.hook).length ≤ r.hooks.length := by
    simpa using h.same.length_eq.symm.le
  exact (List.subperm_of_subset t.nodup.of_map hsub).perm_of_length_le hlength

end Holds

end Registry
end Bookend

import Bookend.Proofs.Calls

namespace Bookend

/-- The callback that a call hands over. -/
def Op.callback : Op → Option Callback
  | register s => s.callback
  | atExit _ c => some c
  | runStartup | runCleanup => none

/-- The hook that a call was given, with the callback it handed over for it. -/
def Op.grant (op : Op) (a : Ending Answer) : Option (Handle × Callback) :=
  match a, op.callback with
  | .value (.handle h), some c => some (h, c)
  | _, _ => none

namespace Status
variable {s : Status}

instance : DecidablePred Called := fun _ => inferInstanceAs (Decidable (_ ∨ _ ∨ _))

theorem called_iff : s.Called ↔ ¬(s = .pending ∨ s = .skipped) := by
  cases s <;> simp [Called]

end Status

namespace Registry

/-- The callbacks that a list of calls registered, each under its handle. -/
def granted (r : Registry) (ops : List Op) : List (Handle × Callback) :=
  (r.history ops).filterMap fun e => e.1.grant e.2.answer

variable {r : Registry}

theorem vet_callback {s : Spec} {c : Callback} (h : r.vet s = .ok c) : s.callback = some c := by
  unfold vet at h
  split at h
  · cases h
  · cases h
  · rename_i hc _
    cases h
    exact hc
  · rename_i hc _
    split at h
    · cases h
      exact hc
    · cases h

/-- A call that gives out a handle has put the callback that came with it under that handle. -/
theorem perform_grant (r : Registry) (op : Op) :
    (issued [r.perform op] = [] ∧ op.grant (r.perform op).answer = none) ∨
      issued [r.perform op] = [r.next] ∧ ∃ c, op.grant (r.perform op).answer = some (r.next, c) ∧
        ∃ k ∈ (r.perform op).state.hooks, k.handle = r.next ∧ k.callback = some c := by
  cases op with
  | register s =>
    cases hv : r.vet s with
    | error e =>
      exact Or.inl (by simp [perform, register, hv, issued, Turn.map, Turn.still,
        Ending.ofExcept, Ending.map, Op.grant])
    | ok c =>
      refine Or.inr ⟨?_, c, ?_, .ofSpec r.next s c, ?_, rfl, rfl⟩
      · simp [perform, register, hv, issued, Turn.map, Ending.ofExcept, Ending.map]
      · simp [perform, register, hv, Turn.map, Ending.ofExcept, Ending.map, Op.grant, Op.callback,
          vet_callback hv]
      · simp only [perform, register, hv, Turn.map]
        exact (hooks_insert_perm r _).mem_iff.mpr List.mem_cons_self
  | atExit name c =>
    cases hs : r.refusal? .atExit with
    | some e =>
      exact Or.inl (by simp [perform, addAtExit, hs, issued, Turn.map, Turn.still,
        Ending.ofExcept, Ending.map, Op.grant])
    | none =>
      refine Or.inr ⟨?_, c, ?_, .ofSpec r.next ((Spec.ofRole .cleanup).named name) c, ?_, rfl, rfl⟩
      · simp [perform, addAtExit, hs, issued, Turn.map, Ending.ofExcept, Ending.map]
      · simp [perform, addAtExit, hs, Turn.map, Ending.ofExcept, Ending.map, Op.grant, Op.callback]
      · simp only [perform, addAtExit, hs, Turn.map]
        exact (hooks_atExit_perm r _).mem_iff.mpr List.mem_cons_self
  | runStartup =>
    refine Or.inl ⟨?_, ?_⟩
    · simp only [issued, perform, Turn.map]
      cases r.runStartup.answer <;> simp [Ending.map]
    · simp [Op.grant, Op.callback]
  | runCleanup =>
    refine Or.inl ⟨?_, ?_⟩
    · simp only [issued, perform, Turn.map]
      cases r.runCleanup.answer <;> simp [Ending.map]
    · simp [Op.grant, Op.callback]

theorem granted_append (r : Registry) (ops more : List Op) :
    r.granted (ops ++ more) = r.granted ops ++ (r.run ops).granted more := by
  simp [granted, history_append]

/-- Every handle that is given out has a callback under it. -/
theorem granted_handles (r : Registry) (ops : List Op) :
    (r.granted ops).map Prod.fst = issued (r.trail ops) := by
  induction ops generalizing r with
  | nil => rfl
  | cons op ops ih =>
    rw [issued_trail_cons, ← ih (r.perform op).state]
    rcases perform_grant r op with ⟨hnone, hgrant⟩ | ⟨hone, c, hgrant, _⟩
    · simp [granted, hnone, hgrant]
    · simp [granted, hone, hgrant]

/-- Every callback that was given is still there and was not called, or is used up and was. -/
structure Accounted (r : Registry) (given called : List (Handle × Callback)) : Prop where
  each : ∀ e ∈ given, ∃ k ∈ r.hooks, k.handle = e.1 ∧
    (k.callback = some e.2 ∧ e.1 ∉ called.map Prod.fst ∨ k.callback = none ∧ e ∈ called)
  known : called ⊆ given
  once : (called.map Prod.fst).Nodup

section
variable {given called : List (Handle × Callback)} {k : Hook}

/-- A hook that holds a callback holds the one that was given for it, and was not called. -/
theorem Accounted.of_holding (h : r.Accounted given called) (t : r.Tables) (hk : k ∈ r.hooks)
    (hc : k.callback.isSome) {e : Handle × Callback} (he : e ∈ given) (hh : k.handle = e.1) :
    k.callback = some e.2 ∧ e.1 ∉ called.map Prod.fst := by
  obtain ⟨a, ha, hah, hcase⟩ := h.each e he
  obtain rfl : a = k := t.handle_inj ha hk (hah.trans hh.symm)
  rcases hcase with hheld | ⟨hnone, _⟩
  · exact hheld
  · simp [hnone] at hc

/-- A call keeps the account: it calls what is still there, and only hooks that it calls lose
their callbacks. -/
theorem Accounted.perform (h : r.Accounted given called) (sound : r.Sound)
    (hevery : ∀ k ∈ r.hooks, k.handle ∈ given.map Prod.fst) (op : Op) :
    (r.perform op).state.Accounted (given ++ (op.grant (r.perform op).answer).toList)
      (called ++ (r.perform op).effects.calls) := by
  obtain ⟨htries, hpending, _⟩ := sound.perform_tries op
  have hcalls : ∀ e ∈ (r.perform op).effects.calls, ∃ k ∈ r.attempts op, k.handle = e.1 ∧
      k.callback = some e.2 := fun e he => mem_callsOf.mp (htries.calls ▸ he)
  have hheld : ∀ e ∈ (r.perform op).effects.calls, e ∈ given ∧ e.1 ∉ called.map Prod.fst := by
    intro e he
    obtain ⟨k, hin, hh, hc⟩ := hcalls e he
    have hk := htries.known k hin
    obtain ⟨g, hg, hgh⟩ := List.mem_map.mp (hevery k hk)
    obtain ⟨hsame, hnot⟩ := h.of_holding sound.toTables hk (by simp [hc]) hg hgh.symm
    have heq : g = e := Prod.ext (hgh.trans hh) (Option.some.inj (hsame.symm.trans hc))
    exact heq ▸ ⟨hg, hnot⟩
  have hold : ∀ e ∈ given, e.1 < r.next := by
    intro e he
    obtain ⟨k, hk, hh, _⟩ := h.each e he
    exact hh ▸ sound.handle_lt k hk
  refine ⟨List.forall_mem_append.mpr ⟨?_, ?_⟩, ?_, ?_⟩
  · intro e he
    obtain ⟨k, hk, hh, hcase⟩ := h.each e he
    by_cases hin : k ∈ r.attempts op
    · have hc := (h.of_holding sound.toTables hk (sound.holding hk (hpending k hin)) he hh).1
      refine ⟨_, htries.tried k hin, by simp [hh], Or.inr ⟨by simp, ?_⟩⟩
      rw [htries.calls]
      exact List.mem_append_right _ (mem_callsOf.mpr ⟨k, hin, hh, hc⟩)
    · have hnew : e.1 ∉ (r.perform op).effects.calls.map Prod.fst := by
        intro hm
        obtain ⟨x, hx, hxe⟩ := List.mem_map.mp hm
        obtain ⟨a, ha, hah, _⟩ := hcalls x hx
        have hsame : a = k := sound.handle_inj (htries.known a ha) hk (by rw [hah, hxe, hh])
        exact hin (hsame ▸ ha)
      have hstill : k.callback = some e.2 ∧ e.1 ∉ (called ++ (r.perform op).effects.calls).map
          Prod.fst ∨ k.callback = none ∧ e ∈ called ++ (r.perform op).effects.calls := by
        refine hcase.imp (fun ⟨hc, hnot⟩ => ⟨hc, ?_⟩) fun ⟨hc, hm⟩ =>
          ⟨hc, List.mem_append_left _ hm⟩
        rw [List.map_append]
        exact List.mem_append.not.mpr (not_or.mpr ⟨hnot, hnew⟩)
      rcases htries.others k hk hin with hkept | hskipped
      · exact ⟨k, hkept, hh, hstill⟩
      · exact ⟨k.skip, hskipped, hh, hstill⟩
  · intro e he
    rcases perform_grant r op with ⟨_, hgrant⟩ | ⟨_, c, hgrant, k, hk, hh, hc⟩
    · simp [hgrant] at he
    · obtain rfl : e = (r.next, c) := by simpa [hgrant] using he
      refine ⟨k, hk, hh, Or.inl ⟨hc, fun hm => ?_⟩⟩
      obtain ⟨x, hx, hxe⟩ := List.mem_map.mp hm
      have hgiven : x ∈ given := by
        rcases List.mem_append.mp hx with hx | hx
        · exact h.known hx
        · exact (hheld x hx).1
      exact absurd hxe (Nat.ne_of_lt (hold x hgiven))
  · intro e he
    refine List.mem_append_left _ ?_
    rcases List.mem_append.mp he with he | he
    · exact h.known he
    · exact (hheld e he).1
  · rw [List.map_append]
    refine h.once.append (sound.perform_once op) ?_
    intro x hx hy
    obtain ⟨e, he, rfl⟩ := List.mem_map.mp hy
    exact (hheld e he).2 hx

end

theorem hooks_granted (rules : HookRules) (ops : List Op) :
    (((new rules).granted ops).map Prod.fst).Perm (((new rules).run ops).hooks.map Hook.handle) := by
  rw [granted_handles]
  exact issued_perm rules ops

theorem accounted_run (rules : HookRules) (ops : List Op) :
    ((new rules).run ops).Accounted ((new rules).granted ops)
      (journalOf ((new rules).trail ops)).calls := by
  induction ops using List.reverseRecOn with
  | nil => exact ⟨by simp [granted], List.nil_subset _, List.nodup_nil⟩
  | append_singleton ops op ih =>
    have hevery : ∀ k ∈ ((new rules).run ops).hooks,
        k.handle ∈ ((new rules).granted ops).map Prod.fst :=
      fun k hk => (hooks_granted rules ops).mem_iff.mpr (List.mem_map_of_mem hk)
    have hstep := ih.perform (sound_run rules ops) hevery op
    have hgrant : ((new rules).run ops).granted [op] =
        (op.grant (((new rules).run ops).perform op).answer).toList := by
      cases hg : op.grant (((new rules).run ops).perform op).answer <;> simp [granted, hg]
    rw [run_append, granted_append, journalOf_trail_append, hgrant]
    exact hstep

/-- A hook holds its callback until it is called. No pass comes to a hook without one, and what the
passes report as invoked is what they came to; so each callback that was registered is called at
most once, and once just if its hook was called. -/
theorem run_callbacks_once (rules : HookRules) (ops : List Op) :
    let r := (new rules).run ops
    let given := (new rules).granted ops
    let calls := (journalOf ((new rules).trail ops)).calls
    (∀ k ∈ r.hooks, k.callback.isSome ↔ k.status = .pending ∨ k.status = .skipped) ∧
      (∀ op, (∀ k ∈ r.attempts op, k ∈ r.hooks ∧ k.status = .pending ∧ k.callback.isSome) ∧
        (r.perform op).effects.calls = callsOf (r.attempts op) ∧
        ((∀ p, (r.perform op).answer ≠ .panic p) →
          (r.perform op).answer.invoked = (r.attempts op).map Hook.handle)) ∧
      (∀ b ks, (startAll b ks).report.invoked = (startAttempts b ks).map Hook.handle ∧
        (drainAll b ks).report.invoked = (drainAttempts b ks).map Hook.handle) ∧
      (given.map Prod.fst).Perm (r.hooks.map Hook.handle) ∧ (given.map Prod.fst).Nodup ∧
      calls ⊆ given ∧
      ∀ e ∈ given, ∃ s, r.status? e.1 = some s ∧ calls.count e = if s.Called then 1 else 0 := by
  intro r given calls
  have sound : r.Sound := sound_run rules ops
  have account : r.Accounted given calls := accounted_run rules ops
  have hhandles : (given.map Prod.fst).Perm (r.hooks.map Hook.handle) := hooks_granted rules ops
  refine ⟨sound.held, fun op => ?_,
    fun b ks => ⟨(startAll_attempts b ks).1, (drainAll_attempts b ks).1⟩, hhandles,
    hhandles.nodup_iff.mpr sound.nodup, account.known, fun e he => ?_⟩
  · obtain ⟨htries, hpending, hreports⟩ := sound.perform_tries op
    refine ⟨fun k hk => ?_, htries.calls, fun hnone => (hreports hnone).1⟩
    have hin := htries.known k hk
    exact ⟨hin, hpending k hk, sound.holding hin (hpending k hk)⟩
  · obtain ⟨k, hk, hh, hcase⟩ := account.each e he
    refine ⟨k.status, hh ▸ sound.status?_of_mem hk, ?_⟩
    have hheld := sound.held k hk
    rcases hcase with ⟨hc, hnot⟩ | ⟨hc, hm⟩
    · have hrest := hheld.mp (by simp [hc])
      have hcount : calls.count e = 0 :=
        List.count_eq_zero_of_not_mem fun hm => hnot (List.mem_map_of_mem hm)
      rw [hcount, if_neg (Status.called_iff.not.mpr (not_not.mpr hrest))]
    · have hcalled : k.status.Called := Status.called_iff.mpr fun hrest => by
        simpa [hc] using hheld.mpr hrest
      rw [if_pos hcalled]
      exact List.count_eq_one_of_mem account.once.of_map hm

end Registry
end Bookend

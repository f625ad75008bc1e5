import Bookend.Proofs.Refusal

namespace Bookend

/-- The call is one to add a hook. -/
def Action.enrols : Action → Bool
  | register | atExit => true
  | runStartup | runCleanup => false

namespace Registry

/-- How many hooks a list of calls added. -/
def enrolled (r : Registry) (ops : List Op) : Nat := (r.accepted ops).countP (·.1.enrols)

/-- The handles that the calls of one kind gave out. -/
def issuedBy (r : Registry) (a : Action) (ops : List Op) : List Handle :=
  issued (((r.history ops).filter (·.1.action = a)).map Prod.snd)

/-- How a call leaves the tables: with the hook that it answers for, or with those they had. -/
inductive Growth (r : Registry) (op : Op) (t : Turn Registry (Ending Answer)) : Prop
  | kept (idle : op.action.enrols = false ∨ t.answer.refuses = true) (unnumbered : issued [t] = [])
      (alike : r.Alike t.state)
  | hook (k : Hook) (e : Event) (action : op.action = .register)
      (answer : t.answer = .value (.handle r.next)) (number : k.handle = r.next)
      (pending : k.status = .pending) (state : t.state = r.insert k)
      (effects : t.effects = [.event e, .tally .registered k.phase])
  | handler (k : Hook) (e : Event) (action : op.action = .atExit)
      (answer : t.answer = .value (.handle r.next)) (number : k.handle = r.next)
      (pending : k.status = .pending)
      (state : t.state = { r with next := r.next + 1, atExit := r.atExit ++ [k] })
      (effects : t.effects = [.event e, .tally .registered k.phase])

/-- Along the life of a registry numbers go up, across its tables too. -/
structure Aged (r : Registry) : Prop where
  owners : ∀ k ∈ r.cleanup, ∀ o, k.releases = some o → o < k.handle
  handlers : ∀ h ∈ (r.startup ++ r.cleanup).map Hook.handle, ∀ i ∈ r.atExit.map Hook.handle, h < i

section
variable {r s : Registry} {k : Hook} {op : Op} {t : Turn Registry (Ending Answer)}

/-- What goes in by registration goes in before the at-exit handlers. -/
theorem insert_handles_perm (r : Registry) (k : Hook) :
    (k.handle :: (r.startup ++ r.cleanup).map Hook.handle).Perm
      (((r.insert k).startup ++ (r.insert k).cleanup).map Hook.handle) := by
  have hp : (k :: (r.startup ++ r.cleanup)).Perm
      ((r.insert k).startup ++ (r.insert k).cleanup) := by
    unfold insert
    split
    · exact ((insertBehind_perm runsBefore k r.startup).append_right _).symm
    · rw [← List.append_assoc]
      exact (List.perm_append_singleton _ _).symm
  exact hp.map Hook.handle

theorem Alike.registeredHandles (h : r.Alike s) :
    (s.startup ++ s.cleanup).map Hook.handle = (r.startup ++ r.cleanup).map Hook.handle := by
  rw [List.map_append, List.map_append, h.cleanupHandles]
  exact congrArg (· ++ _) h.startupOrder

theorem Step.alike (h : r.Step s) (hnext : s.next = r.next) : r.Alike s := by
  rcases h.grows with alike | ⟨k, _, _, _, rfl⟩ | ⟨k, _, _, _, _, rfl⟩
  · exact alike
  · simp at hnext
  · simp at hnext

theorem issued_of_handle {h : Handle} (ha : t.answer = .value (.handle h)) : issued [t] = [h] := by
  simp [issued, ha]

theorem issued_of_refuses (h : t.answer.refuses = true) : issued [t] = [] := by
  cases ha : t.answer with
  | value a =>
    rw [ha] at h
    cases h
  | _ => simp [issued, ha]

theorem Tables.perform_growth (t : r.Tables) (op : Op) : r.Growth op (r.perform op) := by
  cases hrefuses : (r.perform op).answer.refuses with
  | true =>
    refine .kept (Or.inr hrefuses) (issued_of_refuses hrefuses) ?_
    rw [perform_still hrefuses]
    exact ⟨rfl, rfl, rfl, rfl⟩
  | false =>
    obtain ⟨hs, hw⟩ := (perform_refuses r op).mp hrefuses
    cases op with
    | register spec =>
      rcases vet_wellMade hs spec with ⟨_, c, hv⟩ | ⟨hnot, _⟩
      · rw [perform_of_vetted hv]
        exact .hook (.ofSpec r.next spec c) _ rfl rfl rfl rfl rfl rfl
      · exact absurd hw hnot
    | atExit name c =>
      rw [perform_of_ready hs]
      exact .handler (.ofSpec r.next ((Spec.ofRole .cleanup).named name) c) _ rfl rfl rfl rfl rfl
        rfl
    | runStartup =>
      exact .kept (Or.inl rfl) (issued_report _) (t.runStartup_step.alike (runStartup_next r))
    | runCleanup =>
      exact .kept (Or.inl rfl) (issued_report _) (t.runCleanup_step.alike (runCleanup_next r))

theorem enrolled_append (r : Registry) (ops more : List Op) :
    r.enrolled (ops ++ more) = r.enrolled ops + (r.run ops).enrolled more := by
  simp [enrolled, accepted_append]

theorem issuedBy_append (r : Registry) (a : Action) (ops more : List Op) :
    r.issuedBy a (ops ++ more) = r.issuedBy a ops ++ (r.run ops).issuedBy a more := by
  simp [issuedBy, issued, history_append]

theorem enrolled_of_handle {h : Handle} (ha : (r.perform op).answer = .value (.handle h))
    (henrols : op.action.enrols = true) : r.enrolled [op] = 1 := by
  have htaken : (r.perform op).answer.refuses = false := by rw [ha]; rfl
  simp [enrolled, accepted_of_taken htaken, henrols]

theorem enrolled_of_idle (h : op.action.enrols = false ∨ (r.perform op).answer.refuses = true) :
    r.enrolled [op] = 0 := by
  cases hrefuses : (r.perform op).answer.refuses with
  | true => simp [enrolled, accepted_of_refused hrefuses]
  | false =>
    have hidle : op.action.enrols = false := h.resolve_right (by simp [hrefuses])
    simp [enrolled, accepted_of_taken hrefuses, hidle]

theorem issuedBy_single (a : Action) :
    r.issuedBy a [op] = if op.action = a then issued [r.perform op] else [] := by
  by_cases ha : op.action = a <;> simp [issuedBy, issued, ha]

theorem Tables.perform_next (t : r.Tables) (op : Op) :
    (r.perform op).state.next = r.next + r.enrolled [op] := by
  cases t.perform_growth op with
  | kept idle _ alike => rw [alike.next, enrolled_of_idle idle, Nat.add_zero]
  | hook k _ action answer _ _ state =>
    rw [state, insert_next, enrolled_of_handle answer (by rw [action]; rfl)]
  | handler k _ action answer _ _ state =>
    rw [state, enrolled_of_handle answer (by rw [action]; rfl)]

/-- The next number is one more than there are hooks. -/
theorem run_next (rules : HookRules) (ops : List Op) :
    ((new rules).run ops).next = (new rules).enrolled ops + 1 := by
  induction ops using List.reverseRecOn with
  | nil => rfl
  | append_singleton ops op ih =>
    have hstep := (sound_run rules ops).toTables.perform_next op
    rw [run_append, enrolled_append]
    refine hstep.trans ?_
    rw [ih]
    lia

/-- A registration adds to the hooks that were registered, and an at-exit call to the handlers. -/
theorem Tables.perform_issuedBy (t : r.Tables) (op : Op) :
    let s := (r.perform op).state
    ((r.startup ++ r.cleanup).map Hook.handle ++ r.issuedBy .register [op]).Perm
        ((s.startup ++ s.cleanup).map Hook.handle) ∧
      s.atExit.map Hook.handle = r.atExit.map Hook.handle ++ r.issuedBy .atExit [op] := by
  rw [issuedBy_single, issuedBy_single]
  cases t.perform_growth op with
  | kept _ unnumbered alike =>
    simp only [unnumbered, ite_self, List.append_nil]
    exact ⟨List.Perm.of_eq alike.registeredHandles.symm, alike.atExitHandles⟩
  | hook k _ action answer number _ state =>
    rw [action, issued_of_handle answer, ← number, state]
    refine ⟨(List.perm_append_singleton _ _).trans (insert_handles_perm r k), ?_⟩
    simp [(insert_frame r k).2.1]
  | handler k _ action answer number _ state =>
    rw [action, issued_of_handle answer, ← number, state]
    exact ⟨by simp, by simp⟩

/-- The tables hold what the two kinds of registration gave numbers to, each its own. -/
theorem run_issuedBy (rules : HookRules) (ops : List Op) :
    let r := (new rules).run ops
    ((new rules).issuedBy .register ops).Perm ((r.startup ++ r.cleanup).map Hook.handle) ∧
      (new rules).issuedBy .atExit ops = r.atExit.map Hook.handle := by
  induction ops using List.reverseRecOn with
  | nil => exact ⟨List.Perm.refl _, rfl⟩
  | append_singleton ops op ih =>
    obtain ⟨hregistered, hadded⟩ := ih
    obtain ⟨hhooks, hhandlers⟩ := (sound_run rules ops).toTables.perform_issuedBy op
    rw [run_append, issuedBy_append, issuedBy_append]
    refine ⟨(hregistered.append_right _).trans hhooks, ?_⟩
    rw [hadded]
    exact hhandlers.symm

theorem Alike.aged (h : r.Alike s) (aged : r.Aged) : s.Aged where
  owners := forall_of_plain (p := fun k => ∀ o, k.releases = some o → o < k.handle) h.cleanup
    aged.owners
  handlers := by
    rw [h.registeredHandles, h.atExitHandles]
    exact aged.handlers

theorem Tables.owner_lt (t : r.Tables) {o : Handle} (h : o ∈ r.startupOrder) : o < r.next := by
  obtain ⟨a, ha, rfl⟩ := List.mem_map.mp h
  exact t.handle_lt a (mem_hooks.mpr (Or.inl ha))

theorem mem_insert_cleanup {a : Hook} (h : a ∈ (r.insert k).cleanup) : a = k ∨ a ∈ r.cleanup := by
  unfold insert at h
  split at h
  · exact Or.inr h
  · simpa [or_comm] using h

/-- What goes in last has the greatest number, and no hook is registered behind a handler. -/
theorem Step.aged (h : r.Step s) (sound : r.Sound) (aged : r.Aged) : s.Aged := by
  rcases h.grows with alike | ⟨k, stage, number, owner, rfl⟩ | ⟨k, _, number, _, _, rfl⟩
  · exact alike.aged aged
  · have hnone := (sound.situation.of_collecting stage).2.1
    refine ⟨?_, by simp [(insert_frame r k).2.1, hnone]⟩
    intro a ha o ho
    rcases mem_insert_cleanup ha with rfl | ha
    · rw [number]
      exact sound.owner_lt (owner o ho)
    · exact aged.owners a ha o ho
  · refine ⟨aged.owners, ?_⟩
    intro h hh i hi
    rw [List.map_append] at hi
    rcases List.mem_append.mp hi with hi | hi
    · exact aged.handlers h hh i hi
    · obtain ⟨a, ha, rfl⟩ := List.mem_map.mp hh
      obtain rfl : i = k.handle := by simpa using hi
      rw [number]
      exact sound.handle_lt a (List.mem_append_left _ ha)

theorem aged_run (rules : HookRules) (ops : List Op) : ((new rules).run ops).Aged := by
  have hnew : (new rules).Aged := ⟨by simp [new], by simp [new]⟩
  exact (sound_new rules).run_keeps hnew
    (fun _ op sound aged => (sound.perform_step op).aged sound aged) ops

theorem isSome_status? {h : Handle} : (r.status? h).isSome ↔ h ∈ r.hooks.map Hook.handle := by
  simp [status?, hook?]

end

/-- The tables keep every hook that a call added, each once, under the numbers from one up. Lookup,
the sizes and the order of the tables, and the owners that hooks name, all go by these numbers. -/
theorem run_integrity (rules : HookRules) (ops : List Op) :
    let r := (new rules).run ops
    let n := (new rules).enrolled ops
    (r.hooks.map Hook.handle).Nodup ∧
      (∀ h, h ∈ r.hooks.map Hook.handle ↔ 1 ≤ h ∧ h ≤ n) ∧
      issued ((new rules).trail ops) = List.range' 1 n ∧
      (∀ op : Op, op.action.enrols = true → (r.perform op).answer.refuses = false →
        (r.perform op).answer = .value (.handle (n + 1))) ∧
      (∀ h, (r.status? h).isSome ↔ 1 ≤ h ∧ h ≤ n) ∧
      r.size .startup + r.size .cleanup = n ∧
      (∀ k ∈ r.startup, k.phase = .startup ∧ k.releases = none) ∧
      (∀ k ∈ r.cleanup ++ r.atExit, k.phase = .cleanup) ∧
      r.cleanup.Pairwise (fun a b => a.handle < b.handle) ∧
      r.atExit.Pairwise (fun a b => a.handle < b.handle) ∧
      (∀ h ∈ (new rules).issuedBy .register ops, ∀ k ∈ r.atExit, h < k.handle) ∧
      ∀ k ∈ r.hooks, ∀ o, k.releases = some o → ∃ a ∈ r.startup, a.handle = o ∧ o < k.handle := by
  intro r n
  have sound : r.Sound := sound_run rules ops
  have aged : r.Aged := aged_run rules ops
  have hnext : r.next = n + 1 := run_next rules ops
  have hperm : (r.hooks.map Hook.handle).Perm (List.range' 1 n) := by
    obtain ⟨m, hm, hp⟩ := sound.numbered
    obtain rfl : m = n := by lia
    exact hp
  have hmem : ∀ h, h ∈ r.hooks.map Hook.handle ↔ 1 ≤ h ∧ h ≤ n := by
    intro h
    rw [hperm.mem_iff, List.mem_range'_1]
    lia
  refine ⟨sound.nodup, hmem, ?_, ?_, ?_, ?_, sound.startup_phase, sound.cleanup_phase,
    sound.cleanupByAge, sound.atExitByAge, ?_, ?_⟩
  · have htrail : _ = List.range' 1 (r.next - 1) := (trail_issued (new rules) ops).2
    rw [htrail, hnext, Nat.add_sub_cancel]
  · intro op henrols htaken
    cases sound.perform_growth op with
    | kept idle => simp [henrols, htaken] at idle
    | hook _ _ _ answer => rw [answer, hnext]
    | handler _ _ _ answer => rw [answer, hnext]
  · exact fun h => isSome_status?.trans (hmem h)
  · have hlength := hperm.length_eq
    simp only [hooks, List.length_map, List.length_append, List.length_range'] at hlength
    simp only [size]
    lia
  · intro h hh k hk
    exact aged.handlers h ((run_issuedBy rules ops).1.mem_iff.mp hh) _ (List.mem_map_of_mem hk)
  · intro k hk o ho
    rcases mem_hooks.mp hk with hk | hk | hk
    · simp [(sound.startup_phase k hk).2] at ho
    · obtain ⟨a, ha, hao⟩ := List.mem_map.mp (sound.owners k hk o ho)
      exact ⟨a, ha, hao, aged.owners k hk o ho⟩
    · simp [Hook.releases, (sound.atExitRoles k hk).1, Role.releases] at ho

/-- A startup hook that goes in before the others keeps its number, and a call that is refused
uses none up. -/
example :
    let hook (role : Role) (priority : Option Int) : Op :=
      .register ⟨role, none, none, priority, some ⟨none, [], .ok⟩⟩
    let r := (new {}).run
      [hook .startup none, hook (.releasing 2) none, hook .startup (some (-1)),
        hook (.releasing 2) none, .runStartup, hook .cleanup none, .atExit "last" ⟨none, [], .ok⟩]
    r.startupOrder = [2, 1] ∧ r.cleanup.map Hook.handle = [3] ∧ r.atExit.map Hook.handle = [4] ∧
      r.next = 5 := by
  decide

end Registry
end Bookend

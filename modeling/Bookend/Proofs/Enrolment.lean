import Bookend.Launch.Loader
import Bookend.Proofs.Run

namespace Bookend

/-- The handles that the calls of a trail gave out. -/
def issued (ts : List (Turn Registry (Ending Answer))) : List Handle :=
  ts.filterMap fun t =>
    match t.answer with
    | .value (.handle h) => some h
    | _ => none

namespace Registry
variable {r s : Registry}

theorem run_append (r : Registry) (ops more : List Op) :
    r.run (ops ++ more) = (r.run ops).run more :=
  List.foldl_append

theorem trail_append (r : Registry) (ops more : List Op) :
    r.trail (ops ++ more) = r.trail ops ++ (r.run ops).trail more := by
  induction ops generalizing r with
  | nil => rfl
  | cons op ops ih =>
    have htail := ih (r.perform op).state
    simp only [List.cons_append, trail, htail]
    rfl

theorem issued_trail_cons (r : Registry) (op : Op) (ops : List Op) :
    issued (r.trail (op :: ops)) =
      issued [r.perform op] ++ issued ((r.perform op).state.trail ops) :=
  List.filterMap_append (l := [r.perform op])

/-- The calls with what came of each. -/
def history (r : Registry) (ops : List Op) : List (Op × Turn Registry (Ending Answer)) :=
  ops.zip (r.trail ops)

@[simp] theorem history_nil (r : Registry) : r.history [] = [] := rfl

@[simp] theorem history_cons (r : Registry) (op : Op) (ops : List Op) :
    r.history (op :: ops) = (op, r.perform op) :: (r.perform op).state.history ops := rfl

theorem history_append (r : Registry) (ops more : List Op) :
    r.history (ops ++ more) = r.history ops ++ (r.run ops).history more := by
  induction ops generalizing r with
  | nil => rfl
  | cons op ops ih =>
    simp only [List.cons_append, history_cons, ih]
    rfl

theorem drain_next (r : Registry) (w : Sweep) : (r.drain w).state.next = r.next := by
  simp only [drain]
  split <;> rfl

theorem runStartup_next (r : Registry) : r.runStartup.state.next = r.next := by
  have hunwind (q : Registry) (f : Failure) (report : PassReport) :
      (q.unwind f report).state.next = q.next := by
    simp only [unwind]
    split <;> split <;> simp [drain_next, abandon]
  unfold runStartup
  split
  · rfl
  · dsimp only
    split
    · rfl
    · rfl
    · exact hunwind _ _ _

theorem runCleanup_next (r : Registry) : r.runCleanup.state.next = r.next := by
  have hdrain := drain_next { r with stage := .cleanupRunning } .full
  unfold runCleanup
  split
  · rfl
  · dsimp only
    split <;> exact hdrain

/-- The answer of a pass gives out no number. -/
theorem issued_report (t : Turn Registry (Ending PassReport)) :
    issued [t.map (·.map .report)] = [] := by
  simp only [issued, Turn.map]
  cases t.answer <;> simp [Ending.map]

/-- A call gives out the next number and no other, or none. -/
theorem perform_issued (r : Registry) (op : Op) :
    issued [r.perform op] = [] ∧ (r.perform op).state.next = r.next ∨
      issued [r.perform op] = [r.next] ∧ (r.perform op).state.next = r.next + 1 := by
  cases op with
  | register spec =>
    cases hv : r.vet spec with
    | error e =>
      rw [perform_of_fault hv]
      exact Or.inl ⟨rfl, rfl⟩
    | ok c =>
      rw [perform_of_vetted hv]
      exact Or.inr ⟨rfl, insert_next r _⟩
  | atExit name c =>
    by_cases hs : r.stage = .ready
    · rw [perform_of_ready hs]
      exact Or.inr ⟨rfl, rfl⟩
    · simp only [perform, addAtExit, refusal?, Action.stage, hs, if_false]
      exact Or.inl ⟨rfl, rfl⟩
  | runStartup => exact Or.inl ⟨issued_report _, runStartup_next r⟩
  | runCleanup => exact Or.inl ⟨issued_report _, runCleanup_next r⟩

/-- Calls give out the numbers one by one, without a gap. -/
theorem trail_issued (r : Registry) (ops : List Op) :
    r.next ≤ (r.run ops).next ∧
      issued (r.trail ops) = List.range' r.next ((r.run ops).next - r.next) := by
  induction ops generalizing r with
  | nil => simp [run, trail, issued]
  | cons op ops ih =>
    obtain ⟨hle, htail⟩ := ih (r.perform op).state
    change r.next ≤ ((r.perform op).state.run ops).next ∧
      issued (r.trail (op :: ops)) =
        List.range' r.next (((r.perform op).state.run ops).next - r.next)
    rw [issued_trail_cons, htail]
    rcases perform_issued r op with ⟨hnone, hnext⟩ | ⟨hone, hnext⟩
    · rw [hnext] at hle
      simp [hnone, hnext, hle]
    · rw [hnext] at hle
      have hlen : ((r.perform op).state.run ops).next - r.next =
          ((r.perform op).state.run ops).next - (r.next + 1) + 1 := by lia
      refine ⟨by lia, ?_⟩
      rw [hone, hnext, hlen, List.range'_succ]
      rfl

/-- Every hook that was ever given a handle is still in the tables. -/
theorem issued_perm (rules : HookRules) (ops : List Op) :
    (issued ((new rules).trail ops)).Perm (((new rules).run ops).hooks.map Hook.handle) := by
  obtain ⟨n, hn, hp⟩ := (sound_run rules ops).numbered
  rw [(trail_issued (new rules) ops).2, hn]
  exact hp.symm

theorem run_registers_stage (r : Registry) (specs : List Spec) :
    (r.run (specs.map .register)).stage = r.stage := by
  refine run_keeps (p := fun s => s.stage = r.stage) ?_ rfl
  intro s op hop hstage
  obtain ⟨spec, _, rfl⟩ := List.mem_map.mp hop
  simp only [perform, register, Turn.map]
  split
  · exact hstage
  · exact (insert_frame s _).1.trans hstage

end Registry

/-- `t` is the scope `s` after some registrations, the handles they gave out included. -/
def Scope.Enrols (s t : Scope) : Prop :=
  ∃ specs : List Spec, t.registry = s.registry.run (specs.map .register) ∧
    t.handles = s.handles ++ issued (s.registry.trail (specs.map .register))

namespace Scope

theorem Enrols.refl (s : Scope) : s.Enrols s := ⟨[], rfl, (List.append_nil _).symm⟩

theorem Enrols.trans {s t u : Scope} (h : s.Enrols t) (h' : t.Enrols u) : s.Enrols u := by
  obtain ⟨specs, hr, hh⟩ := h
  obtain ⟨more, hr', hh'⟩ := h'
  refine ⟨specs ++ more, ?_, ?_⟩
  · rw [hr', hr, List.map_append, Registry.run_append]
  · rw [hh', hh, hr, List.map_append, Registry.trail_append]
    simp [issued]

theorem register_enrols (s : Scope) (spec : Spec) : s.Enrols (s.register spec).state := by
  refine ⟨[spec.ofModule s.module], ?_, ?_⟩
  · simp only [register]
    split <;> rfl
  · simp only [register]
    split
    · rename_i e he
      simp [issued, Registry.trail, Registry.perform, Turn.map, he, Ending.ofExcept, Ending.map]
    · rename_i h hh
      simp [issued, Registry.trail, Registry.perform, Turn.map, hh, Ending.ofExcept, Ending.map]

end Scope

section
variable {p : Scope → Scope → Prop} (hrefl : ∀ s, p s s)
  (htrans : ∀ {s t u}, p s t → p t u → p s u) (hregister : ∀ s spec, p s (s.register spec).state)
include hrefl htrans hregister

/-- Whatever is done to a scope is done by registering. -/
theorem Enrolment.perform_relates (s : Scope) (e : Enrolment) : p s (e.perform s).state := by
  cases e with
  | onStartup name c => exact hregister s _
  | onCleanup name c => exact hregister s _
  | acquire name c release =>
    simp only [perform, Scope.acquire]
    split
    · exact hregister s _
    · exact htrans (hregister s _) (hregister _ _)
  | register spec => exact hregister s spec
  | fail module => exact hrefl s

theorem Module.enrolAll_relates (s : Scope) (steps : List ModuleStep) :
    p s (enrolAll s steps).state := by
  induction steps generalizing s with
  | nil => exact hrefl s
  | cons step steps ih =>
    have hfirst := Enrolment.perform_relates hrefl htrans hregister s step.enrolment
    simp only [enrolAll]
    split
    · exact htrans hfirst (ih _)
    · split
      · exact htrans hfirst (ih _)
      · exact hfirst

end

/-- What a module is told in the end is what its scope has noted. -/
theorem Module.enrolAll_handles (s : Scope) (steps : List ModuleStep) :
    (enrolAll s steps).answer.handles = (enrolAll s steps).state.handles := by
  induction steps generalizing s with
  | nil => rfl
  | cons step steps ih =>
    simp only [enrolAll]
    split
    · exact ih _
    · split
      · exact ih _
      · rfl

theorem Module.enrolAll_enrols (s : Scope) (steps : List ModuleStep) :
    s.Enrols (enrolAll s steps).state ∧
      (enrolAll s steps).answer.handles = (enrolAll s steps).state.handles :=
  ⟨enrolAll_relates Scope.Enrols.refl Scope.Enrols.trans Scope.register_enrols s steps,
    enrolAll_handles s steps⟩

namespace Loader

theorem load_answer (l : Loader) (m : Module) :
    (l.load m).answer = (m.enrol l.registry).answer := by
  simp only [load]
  split <;> rfl

theorem load_registry (l : Loader) (m : Module) :
    (l.load m).state.registry = (m.enrol l.registry).state.registry := by
  simp only [load]
  split <;> rfl

theorem load_codes (l : Loader) (m : Module) : (l.load m).state.codes = l.codes := by
  simp only [load]
  split <;> rfl

theorem load_of_ok {l : Loader} {m : Module} (h : (l.load m).answer.result = .ok ()) :
    (l.load m).state.failed = l.failed ∧ (l.load m).state.modules = l.modules ++ [m.name] := by
  rw [load_answer] at h
  simp [load, h]

theorem load_of_error {l : Loader} {m : Module} {e : Error}
    (h : (l.load m).answer.result = .error e) :
    (l.load m).state.failed = (l.failed <|> some m.name) ∧
      (l.load m).state.modules = l.modules := by
  rw [load_answer] at h
  simp [load, h]

/-- Whether or not a module loads, it adds to the registry what its handles stand for. -/
theorem load_enrols (l : Loader) (m : Module) :
    ∃ specs : List Spec, (l.load m).state.registry = l.registry.run (specs.map .register) ∧
      (l.load m).answer.handles = issued (l.registry.trail (specs.map .register)) := by
  obtain ⟨⟨specs, hregistry, hscope⟩, hhandles⟩ :=
    Module.enrolAll_enrols (.enter m.name l.registry) m.steps
  rw [load_registry, load_answer]
  exact ⟨specs, hregistry, hhandles.trans (hscope.trans (List.nil_append _))⟩

theorem loaded_enrols (l : Loader) (ms : List Module) :
    ∃ specs : List Spec, (l.loaded ms).registry = l.registry.run (specs.map .register) ∧
      (l.loadAll ms).flatMap (·.answer.handles) =
        issued (l.registry.trail (specs.map .register)) := by
  induction ms generalizing l with
  | nil => exact ⟨[], rfl, rfl⟩
  | cons m ms ih =>
    obtain ⟨first, hfirst, hgiven⟩ := l.load_enrols m
    obtain ⟨rest, hrest, hgiven'⟩ := ih (l.load m).state
    refine ⟨first ++ rest, ?_, ?_⟩
    · rw [List.map_append, Registry.run_append, ← hfirst]
      exact hrest
    · rw [List.map_append, Registry.trail_append, ← hfirst]
      simp only [loadAll, List.flatMap_cons, hgiven, hgiven', issued, List.filterMap_append]

/-- Loads that all went well leave a loader that may launch. -/
theorem loaded_kept (l : Loader) (ms : List Module)
    (h : ∀ t ∈ l.loadAll ms, t.answer.result = .ok ()) :
    (l.loaded ms).failed = l.failed ∧ (l.loaded ms).codes = l.codes := by
  induction ms generalizing l with
  | nil => exact ⟨rfl, rfl⟩
  | cons m ms ih =>
    obtain ⟨hm, hms⟩ := List.forall_mem_cons.mp h
    obtain ⟨hfailed, hcodes⟩ := ih (l.load m).state hms
    exact ⟨hfailed.trans (load_of_ok hm).1, hcodes.trans (l.load_codes m)⟩

/-- What loads come down to, however they ended. -/
theorem loaded_new (s : Settings) (ms : List Module) :
    ∃ specs : List Spec,
      ((new s).loaded ms).registry = (Registry.new s.registry).run (specs.map .register) ∧
        ((new s).loadAll ms).flatMap (·.answer.handles) =
          issued ((Registry.new s.registry).trail (specs.map .register)) :=
  (new s).loaded_enrols ms

/-- Loading leaves a registry that is sound and still collecting. -/
theorem loaded_collecting (s : Settings) (ms : List Module) :
    let r := ((new s).loaded ms).registry
    r.Sound ∧ r.stage = .collecting ∧ r.rules = s.registry := by
  intro r
  obtain ⟨specs, hregistry, _⟩ := loaded_new s ms
  have hrun : r = (Registry.new s.registry).run (specs.map .register) := hregistry
  rw [hrun]
  exact ⟨Registry.sound_run _ _, Registry.run_registers_stage _ specs, Registry.run_rules _ _⟩

end Loader
end Bookend

import Bookend.Proofs.Enrolment

namespace Bookend

namespace Registry
variable {r : Registry}

theorem vet_late (hs : r.stage ≠ .collecting) (spec : Spec) :
    r.vet spec = .error (.invalidPhase .register r.stage) := by
  simp only [vet, refusal?, Action.stage, hs, if_false]

/-- A hook needs no more than its callback, and an owner if it names one. -/
theorem vet_accepts {spec : Spec} {c : Callback} (hs : r.stage = .collecting)
    (hc : spec.callback = some c) (howner : ∀ o, spec.role.releases = some o → o ∈ r.startupOrder) :
    r.vet spec = .ok c := by
  simp only [vet, refusal?_of_stage (a := .register) hs, hc]
  cases ho : spec.role.releases with
  | none => rfl
  | some o => exact if_pos ((r.known_iff o).mpr (howner o ho))

/-- Wherever a startup hook goes in, its number is found there. -/
theorem mem_startupOrder_insert {k : Hook} (hk : k.phase = .startup) :
    k.handle ∈ (r.insert k).startupOrder := by
  have hin : k ∈ insertBehind runsBefore k r.startup :=
    (insertBehind_perm runsBefore k r.startup).mem_iff.mpr List.mem_cons_self
  simp only [startupOrder, insert, hk]
  exact List.mem_map_of_mem hin

end Registry

namespace Scope
variable {s : Scope} {spec : Spec}

/-- The hook as the registry gets it from the scope. -/
def hook (s : Scope) (spec : Spec) (c : Callback) : Hook :=
  .ofSpec s.registry.next (spec.ofModule s.module) c

/-- The scope with one hook more. -/
def add (s : Scope) (k : Hook) : Scope :=
  ⟨s.module, s.registry.insert k, s.handles ++ [k.handle]⟩

theorem register_of_fault {e : Error} (h : s.registry.vet (spec.ofModule s.module) = .error e) :
    s.register spec = .still s (.error e) := by
  simp only [register, Registry.register, h]
  rfl

theorem register_of_vetted {c : Callback}
    (h : s.registry.vet (spec.ofModule s.module) = .ok c) :
    (s.register spec).answer = .ok s.registry.next ∧
      (s.register spec).state = s.add (s.hook spec c) := by
  simp only [register, Registry.register, h]
  exact ⟨trivial, rfl⟩

/-- The owner goes in, and then nothing is left that could keep its release out. -/
theorem acquire_of_collecting (hs : s.registry.stage = .collecting) (name : String)
    (c release : Callback) :
    let owner := s.hook (((Spec.ofRole .startup).named name).calling c) c
    let t := s.add owner
    let releaser := t.hook
      (((Spec.ofRole (.releasing owner.handle)).named (name ++ ":release")).calling release) release
    (s.onStartup name c).answer = .ok owner.handle ∧
      (s.acquire name c release).answer = .ok owner.handle ∧
      (s.acquire name c release).state = t.add releaser := by
  intro owner t releaser
  have hfirst : s.registry.vet
      ((((Spec.ofRole .startup).named name).calling c).ofModule s.module) = .ok c :=
    Registry.vet_accepts hs rfl (by rintro o ⟨⟩)
  obtain ⟨htaken, hstate⟩ := register_of_vetted hfirst
  have hstage : t.registry.stage = .collecting :=
    (Registry.insert_frame s.registry owner).1.trans hs
  have hknown : owner.handle ∈ t.registry.startupOrder := Registry.mem_startupOrder_insert rfl
  have hsecond : t.registry.vet
      ((((Spec.ofRole (.releasing owner.handle)).named (name ++ ":release")).calling
        release).ofModule t.module) = .ok release :=
    Registry.vet_accepts hstage rfl (by rintro o ⟨⟩; exact hknown)
  obtain ⟨hgiven, hend⟩ := register_of_vetted hsecond
  have hanswer : (s.onStartup name c).answer = .ok owner.handle := htaken
  have hthen : (s.onStartup name c).state = t := hstate
  refine ⟨hanswer, ?_⟩
  simp only [acquire, hanswer, hthen, hgiven]
  exact ⟨rfl, hend⟩

theorem acquire_late (hs : s.registry.stage ≠ .collecting) (name : String)
    (c release : Callback) :
    (s.onStartup name c).answer = .error (.invalidPhase .register s.registry.stage) ∧
      s.acquire name c release = .still s (.error (.invalidPhase .register s.registry.stage)) := by
  have hstill : s.onStartup name c = .still s (.error (.invalidPhase .register s.registry.stage)) :=
    register_of_fault (Registry.vet_late hs _)
  simp only [acquire, hstill]
  exact ⟨rfl, rfl⟩

/-- A startup hook and its release go in together or not at all: the answer is that of the first
registration alone. They are two new hooks with the next two numbers, of the module and without a
priority, the second named after the first and bound to it; or the scope stays as it was. -/
theorem acquire_atomic (rules : HookRules) (ops : List Op) (module : String)
    (handles : List Handle) (name : String) (c release : Callback) :
    let r := (Registry.new rules).run ops
    let s : Scope := ⟨module, r, handles⟩
    let t := s.acquire name c release
    let h := r.next
    let owner : Hook := ⟨h, .startup, name, some module, none, some c, .pending⟩
    let releaser : Hook :=
      ⟨h + 1, .releasing h, name ++ ":release", some module, none, some release, .pending⟩
    t.answer = (s.onStartup name c).answer ∧
      (r.stage = .collecting ∧ t.answer = .ok h ∧
          t.state.registry =
            { r with
              next := h + 2
              startup := insertBehind Registry.runsBefore owner r.startup
              cleanup := r.cleanup ++ [releaser] } ∧
          t.state.registry.hooks.Perm (owner :: releaser :: r.hooks) ∧
          (∀ k ∈ r.hooks, k.handle < h) ∧
          t.state.handles = handles ++ [h, h + 1] ∧ t.state.module = module ∨
        r.stage ≠ .collecting ∧ t = .still s (.error (.invalidPhase .register r.stage))) := by
  intro r s t h owner releaser
  by_cases hs : r.stage = .collecting
  · obtain ⟨hfirst, hanswer, hstate⟩ := acquire_of_collecting (s := s) hs name c release
    have htwo : t.state.registry = (r.insert owner).insert releaser := by
      rw [show t.state = _ from hstate]
      rfl
    refine ⟨hanswer.trans hfirst.symm, Or.inl ⟨hs, hanswer, htwo, ?_, ?_, ?_, ?_⟩⟩
    · rw [htwo]
      have hsecond := Registry.hooks_insert_perm (r.insert owner) releaser
      have hboth := hsecond.trans ((Registry.hooks_insert_perm r owner).cons releaser)
      exact hboth.trans (List.Perm.swap owner releaser r.hooks)
    · exact (Registry.sound_run rules ops).handle_lt
    · rw [show t.state = _ from hstate]
      simp [add, hook, Hook.ofSpec, s, h]
    · rw [show t.state = _ from hstate]
      rfl
  · obtain ⟨hfirst, hstill⟩ := acquire_late (s := s) hs name c release
    refine ⟨?_, Or.inr ⟨hs, hstill⟩⟩
    rw [show t = _ from hstill, hfirst]
    rfl

/-- The owner is found although it runs ahead of an older hook; once startup has run neither of the
two goes in. -/
example :
    let hook : Op := .register ⟨.startup, some "log", none, some 5, some ⟨none, [], .ok⟩⟩
    let early : Scope := ⟨"store", (Registry.new {}).run [hook], [1]⟩
    let late : Scope := ⟨"store", (Registry.new {}).run [hook, .runStartup], [1]⟩
    let acquire (s : Scope) := s.acquire "lock" ⟨none, [], .ok⟩ ⟨none, [], .ok⟩
    (acquire early).answer = .ok 2 ∧ (acquire early).state.handles = [1, 2, 3] ∧
      (acquire early).state.registry.startupOrder = [2, 1] ∧
      (acquire late).state = late := by
  decide

end Scope
end Bookend

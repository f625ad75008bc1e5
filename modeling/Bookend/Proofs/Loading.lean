import Bookend.Proofs.Interruption

namespace Bookend

namespace Scope
variable {s t : Scope} {h : Handle}

/-- Handles are not taken back. -/
theorem Enrols.keeps (e : s.Enrols t) (hh : h ∈ s.handles) : h ∈ t.handles := by
  obtain ⟨_, _, hhandles⟩ := e
  rw [hhandles]
  exact List.mem_append_left _ hh

theorem register_given {spec : Spec} (ha : (s.register spec).answer = .ok h) :
    h ∈ (s.register spec).state.handles := by
  simp only [register] at ha ⊢
  split at ha
  · cases ha
  · cases ha
    simp

/-- The owner that is answered for was registered before what releases it. -/
theorem acquire_given {name : String} {c release : Callback}
    (ha : (s.acquire name c release).answer = .ok h) :
    h ∈ (s.acquire name c release).state.handles := by
  simp only [acquire] at ha ⊢
  cases htaken : (s.onStartup name c).answer with
  | error e => simp [htaken] at ha
  | ok owner =>
    simp only [htaken] at ha ⊢
    have hsame {a : Except Error Handle} (hm : a.map (fun _ => owner) = .ok h) : owner = h := by
      cases a with
      | error e => cases hm
      | ok g => exact Except.ok.inj hm
    rw [← hsame ha]
    exact (register_enrols _ _).keeps (register_given htaken)

end Scope

theorem Enrolment.perform_given {s : Scope} {e : Enrolment} {h : Handle}
    (ha : (e.perform s).answer = .ok h) : h ∈ (e.perform s).state.handles := by
  cases e with
  | onStartup name c => exact Scope.register_given ha
  | onCleanup name c => exact Scope.register_given ha
  | acquire name c release => exact Scope.acquire_given ha
  | register spec => exact Scope.register_given ha
  | fail module => cases ha

/-- Whatever ends a module's steps, what they answered with is still the module's. -/
theorem Module.enrolAll_given {s : Scope} {steps : List ModuleStep} {h : Handle}
    (ha : .ok h ∈ (enrolAll s steps).answer.answers) : h ∈ (enrolAll s steps).state.handles := by
  induction steps generalizing s with
  | nil => cases ha
  | cons step steps ih =>
    have hkeeps := (enrolAll_enrols (step.enrolment.perform s).state steps).1
    -- a handle is answered by this step, or by one of the later ones
    have hstep {as : List (Except Error Handle)}
        (hh : .ok h ∈ (step.enrolment.perform s).answer :: as) :
        h ∈ (step.enrolment.perform s).state.handles ∨ .ok h ∈ as := by
      rcases List.mem_cons.mp hh with hself | hlater
      · exact Or.inl (Enrolment.perform_given hself.symm)
      · exact Or.inr hlater
    simp only [enrolAll] at ha ⊢
    cases hanswer : (step.enrolment.perform s).answer with
    | ok g =>
      simp only [hanswer] at ha ⊢
      rw [← hanswer] at ha
      exact (hstep ha).elim hkeeps.keeps ih
    | error e =>
      simp only [hanswer] at ha ⊢
      rw [← hanswer] at ha
      cases hlenient : step.lenient with
      | true =>
        simp only [hlenient, if_true] at ha ⊢
        exact (hstep ha).elim hkeeps.keeps ih
      | false =>
        simp only [hlenient, Bool.false_eq_true, if_false] at ha ⊢
        exact (hstep ha).elim id (by simp)

namespace Registry
variable {r : Registry}

theorem run_registers_keep {k : Hook} (hk : k ∈ r.hooks) (specs : List Spec) :
    k ∈ (r.run (specs.map .register)).hooks := by
  refine run_keeps (p := fun s => k ∈ s.hooks) ?_ hk
  intro s op hop hk
  obtain ⟨spec, _, rfl⟩ := List.mem_map.mp hop
  exact register_keeps hk spec

/-- A cleanup call that answers with an error came in the wrong stage. -/
theorem runCleanup_error {e : Error} (ha : r.runCleanup.answer = .error e) :
    r.stage ≠ .ready ∧ e = .invalidPhase .runCleanup r.stage := by
  by_cases hs : r.stage = .ready
  · rcases runCleanup_answer hs with ⟨report, hvalue⟩ | ⟨p, hpanic⟩
    · cases ha.symm.trans hvalue
    · cases ha.symm.trans hpanic
  · refine ⟨hs, ?_⟩
    simp only [runCleanup, refusal?, Action.stage, hs, if_false, Turn.still] at ha
    cases ha
    rfl

end Registry

namespace Loader
variable {l : Loader}

/-- Every module with what came of loading it. -/
def loads (l : Loader) (ms : List Module) : List (Module × Turn Loader Enrolled) :=
  ms.zip (l.loadAll ms)

@[simp] theorem loads_nil (l : Loader) : l.loads [] = [] := rfl

@[simp] theorem loads_cons (l : Loader) (m : Module) (ms : List Module) :
    l.loads (m :: ms) = (m, l.load m) :: (l.load m).state.loads ms := rfl

theorem loads_handles (l : Loader) (ms : List Module) :
    (l.loads ms).flatMap (·.2.answer.handles) = (l.loadAll ms).flatMap (·.answer.handles) := by
  induction ms generalizing l with
  | nil => rfl
  | cons m ms ih => simp only [loads_cons, loadAll, List.flatMap_cons, ih]

/-- The loader knows the modules that loaded, and the first of those that did not. -/
theorem loaded_names (l : Loader) (ms : List Module) :
    (l.loaded ms).modules =
        l.modules ++ ((l.loads ms).filter (·.2.answer.result.isOk)).map (·.1.name) ∧
      (l.loaded ms).failed =
        (l.failed <|> (((l.loads ms).filter (!·.2.answer.result.isOk)).map (·.1.name)).head?) := by
  induction ms generalizing l with
  | nil => simp [loaded]
  | cons m ms ih =>
    obtain ⟨hmodules, hfailed⟩ := ih (l.load m).state
    change ((l.load m).state.loaded ms).modules = _ ∧ ((l.load m).state.loaded ms).failed = _
    rw [hmodules, hfailed]
    cases h : (l.load m).answer.result with
    | ok u =>
      obtain ⟨hkept, hadded⟩ := load_of_ok h
      simp [hkept, hadded, h, Except.isOk, Except.toBool]
    | error e =>
      obtain ⟨hnamed, hkept⟩ := load_of_error h
      simp [hnamed, hkept, h, Except.isOk, Except.toBool]

theorem load_calls (l : Loader) (m : Module) : (l.load m).effects.calls = [] := by
  have hnone : (m.enrol l.registry).effects.calls = [] := Module.enrolAll_calls _ _
  simp only [load]
  split <;> simp [hnone]

theorem load_given {m : Module} {h : Handle} (ha : .ok h ∈ (l.load m).answer.answers) :
    h ∈ (l.load m).answer.handles := by
  have hhandles := (Module.enrolAll_enrols (.enter m.name l.registry) m.steps).2
  rw [load_answer] at ha ⊢
  exact hhandles ▸ Module.enrolAll_given ha

/-- What a load leaves in the registry stays there, whatever is loaded after it, and nothing is
called meanwhile. -/
theorem loads_keep {ms : List Module} {e : Module × Turn Loader Enrolled} (he : e ∈ l.loads ms) :
    (∀ k ∈ e.2.state.registry.hooks, k ∈ (l.loaded ms).registry.hooks) ∧
      e.2.effects.calls = [] ∧ ∀ h, .ok h ∈ e.2.answer.answers → h ∈ e.2.answer.handles := by
  induction ms generalizing l with
  | nil => cases he
  | cons m ms ih =>
    rcases List.mem_cons.mp he with rfl | he
    · refine ⟨fun k hk => ?_, l.load_calls m, fun h => load_given⟩
      obtain ⟨specs, hregistry, _⟩ := (l.load m).state.loaded_enrols ms
      have hlater : (l.loaded (m :: ms)).registry = _ := hregistry
      rw [hlater]
      exact Registry.run_registers_keep hk specs
    · exact ih he

theorem around_of_failed {m : String} (h : l.failed = some m)
    (main : Registry → Journal → MainRun) :
    l.around main = ⟨.error (.incompleteLoad m), none, [], l.registry, []⟩ := by
  simp only [around, h]

/-- The only error that is left to a launch is that main has taken cleanup out of its hands. -/
theorem launch_error {p : Program} {e : Error} (hfailed : l.failed = none)
    (hs : l.registry.stage = .collecting) (h : (l.launch p).result = .error e) :
    let q := l.registry.runStartup.state.run p.ops
    l.registry.runStartup.state.stage = .ready ∧ q.stage ≠ .ready ∧
      e = .invalidPhase .runCleanup q.stage := by
  rcases Registry.runStartup_answer hs with
    ⟨startup, hup, hready⟩ | ⟨f, startup, unwind, hup⟩ | ⟨payload, hup⟩
  · rw [launch_of_value hfailed hup] at h
    simp only [finish] at h
    split at h
    · cases h
    · split at h
      · cases h
      · rename_i e' herror
        cases h
        exact ⟨hready, Registry.runCleanup_error herror⟩
      · cases h
  · rw [(launch_of_aborted hfailed hup).1] at h
    cases h
  · simp [launch, around, hfailed, hup] at h

/-- Nor is that left to a main that only waits. -/
theorem launchUntilShutdown_error (c : Channel) (t : Task) (hfailed : l.failed = none)
    (hs : l.registry.stage = .collecting) (e : Error) :
    (l.launchUntilShutdown c t).launch.result ≠ .error e := by
  intro h
  have hplain : (l.launch (t.plain (l.registry.startupSends ++ t.sends))).result = .error e :=
    (l.around_plain c t).1.symm.trans h
  obtain ⟨hready, hleft, _⟩ := launch_error hfailed hs hplain
  exact hleft hready

/-- Loading is all or nothing for a launch. It calls nothing, and what any module registered stays
registered; but once a module has failed, a launch names the first that did and does nothing else,
and without one a launch has nothing to refuse. -/
theorem loaded_all_or_nothing (s : Settings) (ms : List Module) :
    let l := (new s).loaded ms
    let loads := (new s).loads ms
    let good := loads.filter (·.2.answer.result.isOk)
    let bad := loads.filter (!·.2.answer.result.isOk)
    l.modules = good.map (·.1.name) ∧
      (l.registry.stage = .collecting ∧ (∀ k ∈ l.registry.hooks, k.status = .pending) ∧
        ∀ e ∈ loads, e.2.effects.calls = []) ∧
      ((loads.flatMap (·.2.answer.handles)).Perm (l.registry.hooks.map Hook.handle) ∧
        ∀ e ∈ loads, (∀ k ∈ e.2.state.registry.hooks, k ∈ l.registry.hooks) ∧
          ∀ h, .ok h ∈ e.2.answer.answers → h ∈ e.2.answer.handles) ∧
      (∀ e rest, bad = e :: rest →
        let refused : Launch := ⟨.error (.incompleteLoad e.1.name), none, [], l.registry, []⟩
        (∀ p, l.launch p = refused) ∧ ∀ c t, (l.launchUntilShutdown c t).launch = refused) ∧
      (bad = [] →
        (∀ p n, (l.launch p).result ≠ .error (.incompleteLoad n)) ∧
          ∀ c t e, (l.launchUntilShutdown c t).launch.result ≠ .error e) := by
  intro l loads good bad
  obtain ⟨sound, hstage, _⟩ := loaded_collecting s ms
  obtain ⟨hmodules, hfailed⟩ := (new s).loaded_names ms
  have hfirst : l.failed = (bad.map (·.1.name)).head? := hfailed
  have hkept := fun e (he : e ∈ loads) => loads_keep he
  have hpending := (sound.situation.of_collecting hstage).1
  refine ⟨hmodules, ⟨hstage, hpending, fun e he => (hkept e he).2.1⟩,
    ⟨?_, fun e he => ⟨(hkept e he).1, (hkept e he).2.2⟩⟩, ?_, ?_⟩
  · obtain ⟨specs, hregistry, hgiven⟩ := loaded_new s ms
    have hissued := Registry.issued_perm s.registry (specs.map .register)
    rw [← hregistry, ← hgiven, ← loads_handles] at hissued
    exact hissued
  · intro e rest hbad refused
    have hnamed : l.failed = some e.1.name := by rw [hfirst, hbad]; rfl
    refine ⟨fun p => around_of_failed hnamed _, fun c t => ?_⟩
    simp [launchUntilShutdown, around_of_failed hnamed, refused, Journal.announced]
  · intro hnone
    have hnamed : l.failed = none := by rw [hfirst, hnone]; rfl
    refine ⟨fun p n h => ?_, fun c t => launchUntilShutdown_error c t hnamed hstage⟩
    obtain ⟨_, _, he⟩ := launch_error hnamed hstage h
    cases he

/-- The module that failed is named, and not what its own error names; the one that was loaded
behind it changes nothing. -/
example :
    let l := (new {}).loaded
      [⟨"store", [⟨.acquire "lock" ⟨none, [], .ok⟩ ⟨none, [], .ok⟩, false⟩, ⟨.fail "disk", false⟩,
        ⟨.onCleanup "flush" ⟨none, [], .ok⟩, false⟩]⟩,
        ⟨"web", [⟨.fail "tls", true⟩, ⟨.onStartup "listen" ⟨none, [], .ok⟩, false⟩]⟩]
    l.modules = ["web"] ∧ l.registry.startupOrder = [1, 3] ∧
      (l.launch ⟨none, [], .returns 0⟩).result = .error (.incompleteLoad "store") := by
  decide

end Loader

end Bookend

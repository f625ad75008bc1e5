import Bookend.Plugin
import Bookend.Proofs.Calls

namespace Bookend

/-- What a registry leaves by itself: counters, calls, and events of its tables and its hooks. -/
def Effect.isInner : Effect → Bool
  | .event e => e.source == .table || e.source == .invocation
  | .main _ _ => false
  | .tally _ _ | .call _ _ => true

section
variable (b : Bool)

theorem Hook.invoke_inner (k : Hook) : (k.invoke b).effects.all Effect.isInner = true := by
  cases hc : k.callback with
  | none => simp [invoke, hc]
  | some c =>
    cases ho : c.outcome.under b <;>
      simp [invoke, hc, ho, opening, Effect.isInner, Event.source]

theorem startAll_inner (ks : List Hook) : (startAll b ks).effects.all Effect.isInner = true := by
  induction ks with
  | nil => rfl
  | cons k ks ih =>
    simp only [startAll, Pass.after, List.all_append, Hook.invoke_inner, Bool.true_and]
    split
    · exact ih
    · rfl
    · rfl

theorem drainAll_inner (ks : List Hook) : (drainAll b ks).effects.all Effect.isInner = true := by
  induction ks with
  | nil => rfl
  | cons k ks ih =>
    simp only [drainAll, Pass.after, List.all_append, Hook.invoke_inner, Bool.true_and]
    split
    · rfl
    · exact ih

end

namespace Registry
variable {r : Registry}

theorem drain_inner (r : Registry) (w : Sweep) :
    (r.drain w).effects.all Effect.isInner = true := by
  simp only [drain]
  split <;> simp [drainAll_inner, Effect.isInner, Event.source]

theorem unwind_inner (r : Registry) (f : Failure) (startup : PassReport) :
    (r.unwind f startup).effects.all Effect.isInner = true := by
  cases hrule : r.rules.unwindOnStartupFailure with
  | false => simp [unwind_of_abandoned f startup hrule, Effect.isInner, Event.source]
  | true =>
    cases ha : (r.drain .unwind).answer with
    | ok report =>
      simp [unwind_of_swept f startup hrule ha, drain_inner, Effect.isInner, Event.source]
    | error p =>
      simp [unwind_of_left f startup hrule ha, drain_inner, Effect.isInner, Event.source]

theorem runStartup_inner (r : Registry) : r.runStartup.effects.all Effect.isInner = true := by
  unfold runStartup
  split
  · rfl
  · dsimp only
    split <;> simp [startAll_inner, unwind_inner, Effect.isInner, Event.source]

theorem runCleanup_inner (r : Registry) : r.runCleanup.effects.all Effect.isInner = true := by
  have hclosing (report : PassReport) : Effect.isInner (.event (closing report)) = true := by
    unfold closing
    split <;> rfl
  unfold runCleanup
  split
  · rfl
  · dsimp only
    split <;> simp [drain_inner, hclosing]

theorem unwind_answer (r : Registry) (f : Failure) (startup : PassReport) :
    (∃ report, (r.unwind f startup).answer = .error (.callbackFailure f startup report)) ∨
      ∃ p, (r.unwind f startup).answer = .panic p := by
  simp only [unwind]
  split
  · exact Or.inr ⟨_, rfl⟩
  · exact Or.inl ⟨_, rfl⟩

/-- A startup call gets through and leaves a registry that is ready, or a hook fails it, or a
panic leaves it. -/
theorem runStartup_answer (hs : r.stage = .collecting) :
    (∃ report, r.runStartup.answer = .value report ∧ r.runStartup.state.stage = .ready) ∨
      (∃ f startup report, r.runStartup.answer = .error (.callbackFailure f startup report)) ∨
      ∃ p, r.runStartup.answer = .panic p := by
  simp only [runStartup, refusal?_of_stage (a := .runStartup) hs]
  split
  · exact Or.inr (Or.inr ⟨_, rfl⟩)
  · exact Or.inl ⟨_, rfl, rfl⟩
  · rcases unwind_answer _ _ _ with ⟨report, ha⟩ | ⟨p, ha⟩
    · exact Or.inr (Or.inl ⟨_, _, report, ha⟩)
    · exact Or.inr (Or.inr ⟨p, ha⟩)

theorem runStartup_ready (hs : r.stage = .collecting) {report : PassReport}
    (ha : r.runStartup.answer = .value report) : r.runStartup.state.stage = .ready := by
  rcases runStartup_answer hs with ⟨_, _, hready⟩ | ⟨_, _, _, herror⟩ | ⟨_, hpanic⟩
  · exact hready
  · cases ha.symm.trans herror
  · cases ha.symm.trans hpanic

/-- In a registry that is ready, a cleanup call gets through or a panic leaves it. -/
theorem runCleanup_answer (hs : r.stage = .ready) :
    (∃ report, r.runCleanup.answer = .value report) ∨ ∃ p, r.runCleanup.answer = .panic p := by
  simp only [runCleanup, refusal?_of_stage (a := .runCleanup) hs]
  split
  · exact Or.inr ⟨_, rfl⟩
  · exact Or.inl ⟨_, rfl⟩

end Registry

namespace Scope
variable (s : Scope)

theorem register_calls (spec : Spec) : (s.register spec).effects.calls = [] := by
  simp only [register]
  split <;> exact Registry.register_calls _ _

theorem acquire_calls (name : String) (c release : Callback) :
    (s.acquire name c release).effects.calls = [] := by
  simp only [acquire]
  split
  · exact s.register_calls _
  · simp [onStartup, register_calls]

end Scope

theorem Enrolment.perform_calls (s : Scope) (e : Enrolment) : (e.perform s).effects.calls = [] := by
  cases e with
  | onStartup name c => exact s.register_calls _
  | onCleanup name c => exact s.register_calls _
  | acquire name c release => exact s.acquire_calls name c release
  | register spec => exact s.register_calls spec
  | fail module => rfl

namespace Module

/-- A module that registers calls nothing. -/
theorem enrolAll_calls (s : Scope) (steps : List ModuleStep) :
    (enrolAll s steps).effects.calls = [] := by
  induction steps generalizing s with
  | nil => rfl
  | cons step steps ih =>
    have hfirst := step.enrolment.perform_calls s
    simp only [enrolAll]
    split
    · simp [hfirst, ih]
    · split
      · simp [hfirst, ih]
      · exact hfirst

/-- The registry that a module fills by itself. -/
def filled (m : Module) (rules : HookRules) : Registry := (m.enrol (.new rules)).state.registry

/-- Whatever a module does, the registry it filled can be started. -/
theorem filled_sound (m : Module) (rules : HookRules) :
    (m.filled rules).Sound ∧ (m.filled rules).stage = .collecting ∧
      (m.filled rules).rules = rules := by
  obtain ⟨⟨specs, hregistry, _⟩, _⟩ := enrolAll_enrols (.enter m.name (.new rules)) m.steps
  have hfilled : m.filled rules = (Registry.new rules).run (specs.map .register) := hregistry
  rw [hfilled]
  exact ⟨Registry.sound_run _ _, Registry.run_registers_stage _ specs, Registry.run_rules _ _⟩

end Module

/-- Everything that was left, wherever it was. -/
def untag (ts : List Tagged) : Journal := ts.map Tagged.effect

@[simp] theorem untag_tag (n : Nat) (j : Journal) : untag (tag n j) = j := by
  simp [untag, tag, Function.comp_def]

theorem forall_mem_tag {n : Nat} {j : Journal} {p : Tagged → Prop} :
    (∀ t ∈ tag n j, p t) ↔ ∀ e ∈ j, p ⟨n, e⟩ :=
  List.forall_mem_map

namespace Host
variable {h : Host}

/-- The host that a list of calls leaves. -/
def run (h : Host) (ops : List HostOp) : Host := ops.foldl (fun h op => (h.perform op).host) h

/-- What comes of a module that is refused while it registers. -/
theorem load_of_refused {m : Module} {e : Error}
    (hrefused : (m.enrol (.new h.rules)).answer.result = .error e) :
    (h.load m).answer.result = .error e ∧
      (untag (h.load m).effects).calls = [] ∧ (h.load m).host.loaded = h.loaded := by
  simp only [load, hrefused, untag_tag]
  exact ⟨trivial, Module.enrolAll_calls _ _, trivial⟩

/-- A module that has registered starts in the registry it filled, and is kept if it starts. -/
theorem load_of_enrolled {m : Module}
    (hok : (m.enrol (.new h.rules)).answer.result = .ok ()) :
    let up := (m.filled h.rules).runStartup
    (h.load m).answer.result = up.answer ∧
      (untag (h.load m).effects).calls = up.effects.calls ∧
      (h.load m).host.loaded =
        match up.answer with
        | .value _ => ⟨m.name, h.count + 1, up.state⟩ :: h.loaded
        | _ => h.loaded := by
  intro up
  have hcalls : (m.enrol (.new h.rules)).effects.calls = [] := Module.enrolAll_calls _ _
  have hup : (m.enrol (.new h.rules)).state.registry.runStartup = up := rfl
  simp only [load, hok, hup]
  cases ha : up.answer <;> simp [hcalls]

theorem load_frame (h : Host) (m : Module) :
    (h.load m).answer.enrolled = (m.enrol (.new h.rules)).answer ∧
      (h.load m).host.count = h.count + 1 ∧ (h.load m).host.rules = h.rules ∧
      ∀ t ∈ (h.load m).effects, t.number = h.count + 1 := by
  simp only [load]
  split
  · exact ⟨rfl, rfl, rfl, forall_mem_tag.mpr fun _ _ => rfl⟩
  · split <;> exact ⟨rfl, rfl, rfl, forall_mem_tag.mpr fun _ _ => rfl⟩

/-- What the cleanups of `ps` leave, one after another. -/
def cleanups (ps : List Plugin) : List Tagged :=
  ps.flatMap fun p => tag p.number p.registry.runCleanup.effects

/-- Plugins whose registries are ready are cleaned up from the newest on, all of them or up to
one that panics. -/
theorem unload_cases (ps : List Plugin) (hready : ∀ p ∈ ps, p.registry.stage = .ready) :
    (∃ cs : List PluginCleanup, unload ps = (.ok cs, [], cleanups ps) ∧
      cs.map (fun c => (c.plugin, Ending.value c.report)) =
        ps.map fun p => (p.name, p.registry.runCleanup.answer)) ∨
    ∃ above p below payload, ps = above ++ p :: below ∧
      (∀ q ∈ above, ∃ report, q.registry.runCleanup.answer = .value report) ∧
      p.registry.runCleanup.answer = .panic payload ∧
      unload ps = (.error payload, below, cleanups (above ++ [p])) := by
  induction ps with
  | nil => exact Or.inl ⟨[], rfl, rfl⟩
  | cons p ps ih =>
    obtain ⟨hp, hps⟩ := List.forall_mem_cons.mp hready
    rcases Registry.runCleanup_answer hp with ⟨report, ha⟩ | ⟨payload, ha⟩
    · rcases ih hps with ⟨cs, hunload, hcs⟩ | ⟨above, q, below, payload, rfl, habove, hq, hunload⟩
      · refine Or.inl ⟨⟨p.name, report⟩ :: cs, ?_, by simp [hcs, ha]⟩
        simp [unload, ha, hunload, cleanups, Except.map]
      · refine Or.inr ⟨p :: above, q, below, payload, rfl, ?_, hq, ?_⟩
        · exact List.forall_mem_cons.mpr ⟨⟨report, ha⟩, habove⟩
        · simp [unload, ha, hunload, cleanups, Except.map]
    · refine Or.inr ⟨[], p, ps, payload, rfl, by simp, ha, ?_⟩
      simp [unload, ha, cleanups]

/-- What a host keeps at any time: its plugins stand ready, the newest first. -/
structure Kept (h : Host) : Prop where
  sound : ∀ p ∈ h.loaded, p.registry.Sound
  ready : ∀ p ∈ h.loaded, p.registry.stage = .ready
  numbered : ∀ p ∈ h.loaded, p.number ≤ h.count
  apart : h.loaded.Pairwise fun a b => b.number < a.number

theorem kept_new (rules : HookRules) : (new rules).Kept where
  sound := by simp [new]
  ready := by simp [new]
  numbered := by simp [new]
  apart := List.Pairwise.nil

/-- A load keeps what there was and adds at most one plugin, which has just started. -/
theorem load_loaded (h : Host) (m : Module) :
    (h.load m).host.loaded = h.loaded ∧ (∀ report, (h.load m).answer.result ≠ .value report) ∨
      ∃ report, (m.filled h.rules).runStartup.answer = .value report ∧
        (m.enrol (.new h.rules)).answer.result = .ok () ∧
        (h.load m).answer.result = .value report ∧
        (h.load m).host.loaded =
          ⟨m.name, h.count + 1, (m.filled h.rules).runStartup.state⟩ :: h.loaded := by
  cases hok : (m.enrol (.new h.rules)).answer.result with
  | error e =>
    obtain ⟨hresult, _, hloaded⟩ := load_of_refused hok
    exact Or.inl ⟨hloaded, by simp [hresult]⟩
  | ok u =>
    obtain ⟨hresult, _, hloaded⟩ := load_of_enrolled hok
    cases ha : (m.filled h.rules).runStartup.answer with
    | value report =>
      rw [ha] at hloaded hresult
      exact Or.inr ⟨report, rfl, rfl, hresult, hloaded⟩
    | error e =>
      rw [ha] at hloaded hresult
      exact Or.inl ⟨hloaded, by simp [hresult]⟩
    | panic p =>
      rw [ha] at hloaded hresult
      exact Or.inl ⟨hloaded, by simp [hresult]⟩

theorem Kept.load (kept : h.Kept) (m : Module) : (h.load m).host.Kept := by
  obtain ⟨_, hcount, _, _⟩ := h.load_frame m
  have hbelow : ∀ p ∈ h.loaded, p.number ≤ (h.load m).host.count := by
    intro p hp
    have := kept.numbered p hp
    lia
  rcases h.load_loaded m with ⟨hsame, _⟩ | ⟨report, ha, _, _, hadded⟩
  · refine ⟨?_, ?_, ?_, ?_⟩ <;> rw [hsame]
    · exact kept.sound
    · exact kept.ready
    · exact hbelow
    · exact kept.apart
  · obtain ⟨hsound, hstage, _⟩ := m.filled_sound h.rules
    have hstarted : (m.filled h.rules).runStartup.state.Sound := hsound.perform .runStartup
    refine ⟨?_, ?_, ?_, ?_⟩ <;> rw [hadded]
    · exact List.forall_mem_cons.mpr ⟨hstarted, kept.sound⟩
    · exact List.forall_mem_cons.mpr ⟨Registry.runStartup_ready hstage ha, kept.ready⟩
    · exact List.forall_mem_cons.mpr ⟨Nat.le_of_eq hcount.symm, hbelow⟩
    · exact List.pairwise_cons.mpr
        ⟨fun q hq => Nat.lt_succ_of_le (kept.numbered q hq), kept.apart⟩

theorem Kept.apart_of_split (kept : h.Kept) {above below : List Plugin}
    (hsplit : h.loaded = above ++ below) :
    (above.Pairwise fun a b => b.number < a.number) ∧
      (below.Pairwise fun a b => b.number < a.number) ∧
      ∀ a ∈ above, ∀ b ∈ below, b.number < a.number :=
  List.pairwise_append.mp (hsplit ▸ kept.apart)

/-- A shutdown takes plugins off from the newest on, and leaves what their cleanups leave. -/
theorem Kept.shutdown_split (kept : h.Kept) :
    ∃ touched, h.loaded = touched ++ h.shutdown.host.loaded ∧
      h.shutdown.effects = cleanups touched := by
  rcases unload_cases h.loaded kept.ready with
    ⟨cs, hunload, _⟩ | ⟨above, p, below, payload, hsplit, _, _, hunload⟩
  · refine ⟨h.loaded, ?_, ?_⟩ <;> simp only [shutdown, hunload, List.append_nil]
  · have hleft : h.shutdown.host.loaded = below := by simp only [shutdown, hunload]
    refine ⟨above ++ [p], ?_, by simp only [shutdown, hunload]⟩
    rw [hleft, hsplit, List.append_cons]

/-- A shutdown that gets through cleans up every plugin, and there is nothing left to do. -/
theorem Kept.shutdown_through (kept : h.Kept) {cs : List PluginCleanup}
    (ha : h.shutdown.answer = .ok cs) :
    cs.map (fun c => (c.plugin, Ending.value c.report)) =
        h.loaded.map (fun p => (p.name, p.registry.runCleanup.answer)) ∧
      h.shutdown.host.loaded = [] := by
  rcases unload_cases h.loaded kept.ready with ⟨ds, hunload, hds⟩ | ⟨_, _, _, _, _, _, _, hunload⟩
  · simp only [Host.shutdown, hunload, Except.ok.injEq] at ha ⊢
    subst ha
    exact ⟨hds, trivial⟩
  · simp only [Host.shutdown, hunload] at ha
    cases ha

/-- A shutdown that a panic leaves has cleaned up the plugins above the one that panicked, and
has not come to those below. -/
theorem Kept.shutdown_left (kept : h.Kept) {payload : Payload}
    (ha : h.shutdown.answer = .error payload) :
    ∃ above p below, h.loaded = above ++ p :: below ∧
      (∀ q ∈ above, ∃ report, q.registry.runCleanup.answer = .value report) ∧
      p.registry.runCleanup.answer = .panic payload ∧
      h.shutdown.effects = cleanups (above ++ [p]) ∧ h.shutdown.host.loaded = below := by
  rcases unload_cases h.loaded kept.ready with
    ⟨_, hunload, _⟩ | ⟨above, p, below, q, hsplit, habove, hp, hunload⟩
  · simp only [Host.shutdown, hunload] at ha
    cases ha
  · simp only [Host.shutdown, hunload, Except.error.injEq] at ha ⊢
    subst ha
    exact ⟨above, p, below, hsplit, habove, hp, rfl, rfl⟩

theorem Kept.shutdown (kept : h.Kept) : h.shutdown.host.Kept := by
  obtain ⟨touched, hsplit, _⟩ := kept.shutdown_split
  have hleft : ∀ p ∈ h.shutdown.host.loaded, p ∈ h.loaded := by
    intro p hp
    rw [hsplit]
    exact List.mem_append_right _ hp
  exact {
    sound := fun p hp => kept.sound p (hleft p hp)
    ready := fun p hp => kept.ready p (hleft p hp)
    numbered := fun p hp => kept.numbered p (hleft p hp)
    apart := (kept.apart_of_split hsplit).2.1 }

theorem Kept.perform (kept : h.Kept) (op : HostOp) : (h.perform op).host.Kept := by
  cases op with
  | load m => exact kept.load m
  | shutdown => exact kept.shutdown

theorem Kept.run (kept : h.Kept) (ops : List HostOp) : (h.run ops).Kept := by
  induction ops generalizing h with
  | nil => exact kept
  | cons op ops ih => exact ih (kept.perform op)

theorem run_rules (h : Host) (ops : List HostOp) : (h.run ops).rules = h.rules := by
  induction ops generalizing h with
  | nil => rfl
  | cons op ops ih =>
    have hstep : (h.perform op).host.rules = h.rules := by
      cases op with
      | load m => exact (h.load_frame m).2.2.1
      | shutdown => rfl
    exact (ih (h.perform op).host).trans hstep

end Host
end Bookend

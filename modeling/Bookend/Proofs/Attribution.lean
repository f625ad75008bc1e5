import Bookend.Proofs.Acquisition
import Bookend.Proofs.Loading
import Bookend.Proofs.Permanence
import Bookend.Proofs.Reporting

namespace Bookend

/-- `t` is the scope `s` after the hooks `ks` went in. They got the next numbers, one after another,
and bear the name of the module. -/
structure Scope.Grows (s t : Scope) (ks : List Hook) : Prop where
  grown : t = ks.foldl Scope.add s
  numbers : ks.map Hook.handle = List.range' s.registry.next ks.length
  owned : ∀ k ∈ ks, k.module = some s.module

namespace Scope
variable {s t u : Scope} {ks ls : List Hook}

theorem foldl_add (s : Scope) (ks : List Hook) :
    let t := ks.foldl add s
    t.module = s.module ∧ t.handles = s.handles ++ ks.map Hook.handle ∧
      t.registry.next = s.registry.next + ks.length ∧
      t.registry.hooks.Perm (ks ++ s.registry.hooks) := by
  induction ks generalizing s with
  | nil => exact ⟨rfl, (List.append_nil _).symm, rfl, List.Perm.refl _⟩
  | cons k ks ih =>
    obtain ⟨hmodule, hhandles, hnext, hhooks⟩ := ih (s.add k)
    refine ⟨hmodule, ?_, ?_, ?_⟩
    · rw [List.map_cons, List.append_cons]
      exact hhandles
    · have hfirst : (s.add k).registry.next = s.registry.next + 1 := Registry.insert_next _ k
      rw [hfirst] at hnext
      rw [List.length_cons]
      exact hnext.trans (Nat.add_right_comm _ 1 _)
    · have hfirst := (Registry.hooks_insert_perm s.registry k).append_left ks
      exact hhooks.trans (hfirst.trans List.perm_middle)

theorem Grows.refl (s : Scope) : s.Grows s [] := ⟨rfl, rfl, by simp⟩

theorem Grows.trans (h : s.Grows t ks) (h' : t.Grows u ls) : s.Grows u (ks ++ ls) := by
  obtain ⟨rfl, hnumbers, howned⟩ := h
  obtain ⟨hmodule, _, hnext, _⟩ := s.foldl_add ks
  refine ⟨?_, ?_, ?_⟩
  · rw [List.foldl_append]
    exact h'.grown
  · rw [List.map_append, List.length_append, ← List.range'_append_1, hnumbers, h'.numbers, hnext]
  · refine List.forall_mem_append.mpr ⟨howned, ?_⟩
    rw [← hmodule]
    exact h'.owned

theorem register_grows (s : Scope) (spec : Spec) : ∃ ks, s.Grows (s.register spec).state ks := by
  cases hv : s.registry.vet (spec.ofModule s.module) with
  | error e =>
    rw [register_of_fault hv]
    exact ⟨[], Grows.refl s⟩
  | ok c =>
    refine ⟨[s.hook spec c], (register_of_vetted hv).2, rfl, ?_⟩
    exact List.forall_mem_singleton.mpr rfl

end Scope

/-- Wherever the steps of a module stop, what went in until then is in. -/
theorem Module.enrolAll_grows (s : Scope) (steps : List ModuleStep) :
    ∃ ks, s.Grows (enrolAll s steps).state ks := by
  refine enrolAll_relates (p := fun s t => ∃ ks, s.Grows t ks) ?_ ?_ Scope.register_grows s steps
  · exact fun s => ⟨[], Scope.Grows.refl s⟩
  · rintro s t u ⟨ks, h⟩ ⟨ls, h'⟩
    exact ⟨ks ++ ls, h.trans h'⟩

namespace Registry
variable {r : Registry} {op : Op} {f : Failure}

/-- A module is given the numbers of the hooks that it added, which bear its name. The others are
as they were. -/
theorem Sound.enrol_owns (sound : r.Sound) (m : Module) :
    let t := m.enrol r
    let r' := t.state.registry
    ∃ added : List Hook, t.state.handles = added.map Hook.handle ∧
      t.answer.handles = t.state.handles ∧
      t.state.handles.Pairwise (· < ·) ∧ r'.hooks.Perm (added ++ r.hooks) ∧
      (∀ k ∈ added, k.module = some m.name ∧ r.hook? k.handle = none ∧
        r'.hook? k.handle = some k) ∧
      ∀ h k, r.hook? h = some k → r'.hook? h = some k := by
  intro t r'
  obtain ⟨added, hgrown, hnumbers, howned⟩ := Module.enrolAll_grows (.enter m.name r) m.steps
  obtain ⟨⟨specs, hregistry, _⟩, hgiven⟩ := Module.enrolAll_enrols (.enter m.name r) m.steps
  obtain ⟨_, hhandles, _, hperm⟩ := Scope.foldl_add (.enter m.name r) added
  rw [← hgrown] at hhandles hperm
  have hadded : t.state.handles = added.map Hook.handle := hhandles
  have after : r'.Tables := by
    have hrun : r' = r.run (specs.map .register) := hregistry
    rw [hrun]
    exact (sound.run _).toTables
  refine ⟨added, hadded, hgiven, ?_, hperm, ?_, ?_⟩
  · rw [hadded, hnumbers]
    exact List.pairwise_lt_range'
  · intro k hk
    refine ⟨howned k hk, ?_, ?_⟩
    · -- its number is not yet given out in `r`
      have hfresh := List.mem_map_of_mem (f := Hook.handle) hk
      rw [hnumbers] at hfresh
      have hle : r.next ≤ k.handle := (List.mem_range'_1.mp hfresh).1
      refine Option.eq_none_iff_forall_ne_some.mpr fun a ha => ?_
      obtain ⟨hin, hself⟩ := sound.hook?_iff.mp ha
      have hlt : a.handle < r.next := sound.handle_lt a hin
      exact absurd (hself ▸ hlt) (Nat.not_lt.mpr hle)
    · exact after.hook?_iff.mpr ⟨hperm.mem_iff.mpr (List.mem_append_left _ hk), rfl⟩
  · intro h k hfound
    obtain ⟨hin, hself⟩ := sound.hook?_iff.mp hfound
    exact after.hook?_iff.mpr ⟨hperm.mem_iff.mpr (List.mem_append_right _ hin), hself⟩

/-- A failure bears the number and the module of a hook that the call found in the tables. -/
theorem Sound.perform_failures (sound : r.Sound) (hf : f ∈ (r.perform op).answer.failures) :
    ∃ k ∈ r.hooks, f.handle = k.handle ∧ f.module = k.module := by
  obtain ⟨htries, _, hreports⟩ := sound.perform_tries op
  have hreturned : ∀ p, (r.perform op).answer ≠ .panic p := by
    intro p hp
    rw [hp] at hf
    cases hf
  rw [(hreports hreturned).2] at hf
  obtain ⟨k, hk, hfailed⟩ := mem_failuresOf.mp hf
  obtain ⟨m, rfl⟩ := Hook.verdict_failure hfailed
  exact ⟨k, htries.known k hk, rfl, rfl⟩

/-- Once startup has run a call adds no hook, or a handler, which is of no module. -/
theorem Sound.perform_adds (sound : r.Sound) (hs : r.stage ≠ .collecting) (op : Op) :
    ∀ k ∈ (r.perform op).state.hooks,
      (∃ a ∈ r.hooks, a.plain = k.plain) ∨
        k.handle ∈ issued [r.perform op] ∧ k.module = none := by
  intro k hk
  rcases sound.toTables.perform_entry op with ⟨_, alike⟩ | ⟨e, hsome, _, hperm⟩
  · have hplain := List.mem_map_of_mem (f := Hook.plain) hk
    rw [alike.hooks_plain] at hplain
    exact Or.inl (List.mem_map.mp hplain)
  · rcases List.mem_cons.mp (hperm.mem_iff.mp hk) with rfl | hk
    · refine Or.inr ?_
      cases op with
      | register spec =>
        rw [perform_refused hs] at hsome
        cases hsome
      | atExit name c =>
        by_cases hready : r.stage = .ready
        · rw [perform_of_ready hready] at hsome ⊢
          cases hsome
          exact ⟨List.mem_singleton.mpr rfl, rfl⟩
        · rw [perform_refused hready] at hsome
          cases hsome
      | runStartup =>
        rw [enters?_of_idle rfl] at hsome
        cases hsome
      | runCleanup =>
        rw [enters?_of_idle rfl] at hsome
        cases hsome
    · exact Or.inl ⟨k, hk, rfl⟩

/-- Whatever is called once startup has run, a hook was there before or was added by a call. -/
theorem Sound.run_adds (sound : r.Sound) (hs : r.stage ≠ .collecting) (ops : List Op) :
    ∀ k ∈ (r.run ops).hooks,
      (∃ a ∈ r.hooks, a.plain = k.plain) ∨
        k.handle ∈ issued (r.trail ops) ∧ k.module = none := by
  induction ops using List.reverseRecOn with
  | nil => exact fun k hk => Or.inl ⟨k, hk, rfl⟩
  | append_singleton ops op ih =>
    have hlater : (r.run ops).stage ≠ .collecting := by
      intro hcollecting
      have hle := (sound.run_lasts ops).stage
      rw [hcollecting] at hle
      cases hstage : r.stage <;> simp_all [Stage.place]
    have hissued : issued (r.trail (ops ++ [op])) =
        issued (r.trail ops) ++ issued [(r.run ops).perform op] := by
      rw [trail_append]
      exact List.filterMap_append
    intro k hk
    rw [run_append] at hk
    rw [hissued, List.mem_append]
    rcases (sound.run ops).perform_adds hlater op k hk with ⟨a, ha, hplain⟩ | ⟨hadded, hnone⟩
    · have hhandle := congrArg Hook.handle hplain
      have hmodule := congrArg Hook.module hplain
      rcases ih a ha with ⟨b, hb, hold⟩ | ⟨hadded, hnone⟩
      · exact Or.inl ⟨b, hb, hold.trans hplain⟩
      · exact Or.inr ⟨Or.inl (hhandle ▸ hadded), hmodule ▸ hnone⟩
    · exact Or.inr ⟨Or.inr hadded, hnone⟩

theorem mem_trail {t : Turn Registry (Ending Answer)} {ops : List Op} (ht : t ∈ r.trail ops) :
    ∃ before op after, ops = before ++ op :: after ∧ t = (r.run before).perform op := by
  induction ops generalizing r with
  | nil => cases ht
  | cons op ops ih =>
    rcases List.mem_cons.mp ht with rfl | ht
    · exact ⟨[], op, ops, rfl, rfl⟩
    · obtain ⟨before, op', after, rfl, rfl⟩ := ih ht
      exact ⟨op :: before, op', after, rfl, rfl⟩

end Registry

/-- Every failure that a launch report tells of. -/
def LaunchReport.failures (r : LaunchReport) : List Failure :=
  match r.outcome with
  | .completed startup _ cleanup => startup.failures ++ cleanup.failures
  | .startupAborted f startup unwind => f :: (startup.failures ++ unwind.failures)

/-- The failures that a launch ends with, if it ends with a report. -/
def Ending.lastFailures : Ending LaunchReport → List Failure
  | .value report => report.failures
  | .error _ | .panic _ => []

/-- Every failure that a launch tells of, be it to main or at the end. -/
def Launch.failures (v : Launch) : List Failure :=
  v.trail.flatMap (·.answer.failures) ++ v.result.lastFailures

namespace Failure

/-- It failed in a hook that `r` holds, and names its module; or in one that was added since,
under one of the numbers `added`, and names none. -/
def ComesOf (f : Failure) (r : Registry) (added : List Handle) : Prop :=
  (∃ k ∈ r.hooks, f.handle = k.handle ∧ f.module = k.module) ∨ f.handle ∈ added ∧ f.module = none

/-- It names the module that registered its hook, and none if main added it. -/
structure Names (f : Failure) (loads : List (Module × Turn Loader Enrolled))
    (added : List Handle) : Prop where
  known : f.handle ∈ loads.flatMap (·.2.answer.handles) ∨ f.handle ∈ added
  ofModule : ∀ e ∈ loads, f.handle ∈ e.2.answer.handles → f.module = some e.1.name
  ofMain : f.handle ∈ added → f.module = none

end Failure

namespace Loader
variable {l : Loader} {s : Settings} {ms : List Module} {f : Failure} {added : List Handle}

theorem loads_perm (s : Settings) (ms : List Module) :
    (((new s).loads ms).flatMap (·.2.answer.handles)).Perm
      (((new s).loaded ms).registry.hooks.map Hook.handle) := by
  obtain ⟨specs, hregistry, hgiven⟩ := loaded_new s ms
  rw [loads_handles, hgiven, hregistry]
  exact Registry.issued_perm s.registry _

/-- What a module was given numbers for is in the tables, under its name. -/
theorem loads_own (sound : l.registry.Sound) {e : Module × Turn Loader Enrolled}
    (he : e ∈ l.loads ms) {h : Handle} (hh : h ∈ e.2.answer.handles) :
    ∃ k ∈ e.2.state.registry.hooks, k.handle = h ∧ k.module = some e.1.name := by
  induction ms generalizing l with
  | nil => cases he
  | cons m ms ih =>
    rcases List.mem_cons.mp he with rfl | he
    · obtain ⟨added, hadded, hgiven, _, hperm, howned, _⟩ := sound.enrol_owns m
      rw [load_answer, hgiven, hadded] at hh
      obtain ⟨k, hk, rfl⟩ := List.mem_map.mp hh
      rw [load_registry]
      exact ⟨k, hperm.mem_iff.mpr (List.mem_append_left _ hk), rfl, (howned k hk).1⟩
    · obtain ⟨specs, hregistry, _⟩ := l.load_enrols m
      refine ih ?_ he
      rw [hregistry]
      exact sound.run _

/-- Main's numbers are not those of the modules, so a failure tells who registered its hook. -/
theorem names_of_comesOf (hf : f.ComesOf ((new s).loaded ms).registry added)
    (hnew : ∀ h ∈ added, ((new s).loaded ms).registry.next ≤ h) :
    f.Names ((new s).loads ms) added := by
  have sound : ((new s).loaded ms).registry.Sound := (loaded_collecting s ms).1
  have hapart (k : Hook) (hk : k ∈ ((new s).loaded ms).registry.hooks) : k.handle ∉ added := by
    intro hadded
    exact absurd (sound.handle_lt k hk) (Nat.not_lt.mpr (hnew _ hadded))
  have howned : ∀ e ∈ (new s).loads ms, ∀ h ∈ e.2.answer.handles,
      ∃ a ∈ ((new s).loaded ms).registry.hooks, a.handle = h ∧ a.module = some e.1.name := by
    intro e he h hh
    obtain ⟨a, ha, hself, hname⟩ := loads_own (Registry.sound_new s.registry) he hh
    exact ⟨a, (loads_keep he).1 a ha, hself, hname⟩
  rcases hf with ⟨k, hk, hself, hmodule⟩ | ⟨hadded, hnone⟩
  · refine ⟨Or.inl ?_, ?_, ?_⟩
    · rw [(loads_perm s ms).mem_iff, hself]
      exact List.mem_map_of_mem hk
    · intro e he hh
      obtain ⟨a, ha, hother, hname⟩ := howned e he _ hh
      have hsame : a = k := sound.handle_inj ha hk (hother.trans hself)
      rw [hmodule, ← hsame, hname]
    · intro hadded
      exact absurd (hself ▸ hadded) (hapart k hk)
  · refine ⟨Or.inr hadded, ?_, fun _ => hnone⟩
    intro e he hh
    obtain ⟨a, ha, hother, _⟩ := howned e he _ hh
    exact absurd (hother ▸ hadded) (hapart a ha)

/-- A call that main makes, or that follows main, fails in a hook of the loaded registry or in a
handler that main has added before. -/
theorem call_comesOf (sound : l.registry.Sound) (hready : l.registry.runStartup.state.stage = .ready)
    {ops : List Op} {op : Op}
    (hf : f ∈ ((l.registry.runStartup.state.run ops).perform op).answer.failures) (later : List Op) :
    f.ComesOf l.registry (issued (l.registry.runStartup.state.trail (ops ++ later))) := by
  have hup : l.registry.runStartup.state.Sound := sound.perform .runStartup
  have alike := sound.toTables.runStartup_step.alike (Registry.runStartup_next l.registry)
  obtain ⟨k, hk, hself, hmodule⟩ := (hup.run ops).perform_failures hf
  rcases hup.run_adds (by simp [hready]) ops k hk with ⟨a, ha, hplain⟩ | ⟨hadded, hnone⟩
  · have hstart := List.mem_map_of_mem (f := Hook.plain) ha
    rw [alike.hooks_plain] at hstart
    obtain ⟨b, hb, hold⟩ := List.mem_map.mp hstart
    have hhandle := congrArg Hook.handle (hold.trans hplain)
    have hname := congrArg Hook.module (hold.trans hplain)
    exact Or.inl ⟨b, hb, hself.trans hhandle.symm, hmodule.trans hname.symm⟩
  · refine Or.inr ⟨?_, hmodule.trans hnone⟩
    rw [Registry.trail_append, issued, List.filterMap_append, hself]
    exact List.mem_append_left _ hadded

/-- Behind main there is only the cleanup call. -/
theorem mem_finish_failures (l : Loader) (startup : PassReport) (p : Program) (r : Registry)
    (hf : f ∈ (l.finish startup (p.run r)).answer.lastFailures) :
    f ∈ startup.failures ∨ f ∈ ((r.run p.ops).perform .runCleanup).answer.failures := by
  cases hfinish : p.finish with
  | panics payload =>
    rw [l.finish_of_panics startup (m := p.run r) hfinish] at hf
    cases hf
  | returns status =>
    have hanswer := (l.finish_of_returns startup (m := p.run r) hfinish).2
    have hregistry : (p.run r).registry = r.run p.ops := rfl
    rw [hregistry] at hanswer
    rw [hanswer] at hf
    cases hdown : (r.run p.ops).runCleanup.answer with
    | value cleanup =>
      have hlast : ((r.run p.ops).perform .runCleanup).answer = .value (.report cleanup) := by
        simp only [Registry.perform, Turn.map, hdown, Ending.map]
      rw [hdown] at hf
      rw [hlast]
      exact List.mem_append.mp hf
    | _ =>
      rw [hdown] at hf
      cases hf

/-- A failed startup is told of once more as what kept main out. -/
theorem mem_aborted_failures (sound : l.registry.Sound) {first : Failure}
    {startup unwind : PassReport}
    (hup : l.registry.runStartup.answer = .error (.callbackFailure first startup unwind))
    (hf : f ∈ first :: (startup.failures ++ unwind.failures)) :
    f ∈ (l.registry.perform .runStartup).answer.failures := by
  have hanswer : (l.registry.perform .runStartup).answer =
      .error (.callbackFailure first startup unwind) := by
    simp only [Registry.perform, Turn.map, hup, Ending.map]
  have hreported : startup ∈ (l.registry.perform .runStartup).answer.reports := by
    simp [hanswer, Ending.reports]
  have hreturned := sound.toTables.perform_returned hreported
  have hfirst : startup.failures = [first] := (hreturned.phases.2 _ _ _ hanswer).2.2.1
  rw [hanswer]
  rcases List.mem_cons.mp hf with rfl | hf
  · exact List.mem_append_left _ (by simp [hfirst])
  · exact hf

theorem launch_comesOf (sound : l.registry.Sound) (hs : l.registry.stage = .collecting)
    (p : Program) :
    ∀ f ∈ (l.launch p).failures, f.ComesOf l.registry (issued (l.launch p).trail) := by
  intro f hf
  have hstart (hf : f ∈ (l.registry.perform .runStartup).answer.failures) :
      f.ComesOf l.registry (issued (l.launch p).trail) :=
    Or.inl (sound.perform_failures hf)
  cases hfailed : l.failed with
  | some m =>
    rw [launch, around_of_failed hfailed] at hf
    cases hf
  | none =>
    rcases Registry.runStartup_answer hs with
      ⟨startup, hup, hready⟩ | ⟨first, startup, unwind, hup⟩ | ⟨payload, hup⟩
    · have hlaunch := launch_of_value (p := p) hfailed hup
      have htrail : (l.launch p).trail = l.registry.runStartup.state.trail p.ops := by rw [hlaunch]
      have hresult : (l.launch p).result =
          (l.finish startup (p.run l.registry.runStartup.state)).answer := by rw [hlaunch]
      have hvalue : (l.registry.perform .runStartup).answer = .value (.report startup) := by
        simp only [Registry.perform, Turn.map, hup, Ending.map]
      rcases List.mem_append.mp hf with hf | hf
      · obtain ⟨t, ht, hf⟩ := List.mem_flatMap.mp hf
        rw [htrail] at ht ⊢
        obtain ⟨before, op, after, hops, rfl⟩ := Registry.mem_trail ht
        rw [hops]
        exact call_comesOf sound hready hf _
      · rw [hresult] at hf
        rcases l.mem_finish_failures startup p _ hf with hf | hf
        · exact hstart (by rw [hvalue]; exact hf)
        · have hlast := call_comesOf sound hready hf []
          rw [List.append_nil, ← htrail] at hlast
          exact hlast
    · have hlaunch : (l.launch p).trail = [] ∧
          (l.launch p).result = .value ⟨.startupAborted first startup unwind, l.codes⟩ := by
        simp [launch, around, hfailed, hup]
      rw [Launch.failures, hlaunch.1, hlaunch.2] at hf
      exact hstart (mem_aborted_failures sound hup hf)
    · have hlaunch : (l.launch p).trail = [] ∧ (l.launch p).result = .panic payload := by
        simp [launch, around, hfailed, hup]
      rw [Launch.failures, hlaunch.1, hlaunch.2] at hf
      cases hf

/-- Main gets numbers that no module was given. -/
theorem launch_issued (l : Loader) (p : Program) :
    ∀ h ∈ issued (l.launch p).trail, l.registry.next ≤ h := by
  have htrail : (l.launch p).trail = [] ∨
      (l.launch p).trail = l.registry.runStartup.state.trail p.ops := by
    simp only [launch, around]
    split
    · exact Or.inl rfl
    · split
      · exact Or.inl rfl
      · exact Or.inl rfl
      · exact Or.inl rfl
      · exact Or.inr rfl
  intro h hh
  rcases htrail with htrail | htrail
  · rw [htrail] at hh
    cases hh
  · rw [htrail, (Registry.trail_issued _ p.ops).2, Registry.runStartup_next] at hh
    exact (List.mem_range'_1.mp hh).1

theorem launch_names (s : Settings) (ms : List Module) (p : Program) :
    let v := ((new s).loaded ms).launch p
    ∀ f ∈ v.failures, f.Names ((new s).loads ms) (issued v.trail) := by
  intro v f hf
  obtain ⟨sound, hs, _⟩ := loaded_collecting s ms
  exact names_of_comesOf (launch_comesOf sound hs p f hf) (launch_issued _ p)

/-- What a module gets numbers for is what it added to the registry, in whatever state that is,
however its steps end, and with its own name, whichever its specs ask for; nothing else changes. So
a failure that a launch tells of names the module that registered the hook, and a failure in a
handler of main's names none. -/
theorem modules_own_hooks (rules : HookRules) (ops : List Op) (m : Module) (s : Settings)
    (ms : List Module) :
    let r := (Registry.new rules).run ops
    let t := m.enrol r
    let r' := t.state.registry
    let l := (new s).loaded ms
    let loads := (new s).loads ms
    (∃ added : List Hook, t.state.handles = added.map Hook.handle ∧
        t.answer.handles = t.state.handles ∧
        t.state.handles.Pairwise (· < ·) ∧ r'.hooks.Perm (added ++ r.hooks) ∧
        (∀ k ∈ added, k.module = some m.name ∧ r.hook? k.handle = none ∧
          r'.hook? k.handle = some k) ∧
        ∀ h k, r.hook? h = some k → r'.hook? h = some k) ∧
      (∀ p, let v := l.launch p
        ∀ f ∈ v.failures, f.Names loads (issued v.trail)) ∧
      ∀ c task, let v := (l.launchUntilShutdown c task).launch
        ∀ f ∈ v.failures, f.Names loads (issued v.trail) := by
  intro r t r' l loads
  refine ⟨(Registry.sound_run rules ops).enrol_owns m, launch_names s ms, ?_⟩
  intro c task v f hf
  obtain ⟨hresult, _, htrail, _⟩ := l.around_plain c task
  have hnames := launch_names s ms (task.plain (l.registry.startupSends ++ task.sends)) f
  rw [Launch.failures, ← hresult, ← htrail] at hnames
  exact hnames hf

/-- A cleanup hook that wants to be of another module and fails, in a module that goes on after a
registration without a callback. -/
def borrowingModule : Module :=
  ⟨"store", [⟨.register ⟨.startup, some "open", none, none, none⟩, true⟩,
    ⟨.register ⟨.cleanup, some "flush", some "web", none, some ⟨none, [], .error "full"⟩⟩, false⟩]⟩

/-- A main whose own handler fails too. -/
def clumsyMain : Program := ⟨none, [.atExit "bye" ⟨none, [], .error "late"⟩], .returns 0⟩

theorem modules_own_hooks_borrowing :
    let v := ((new {}).loaded [borrowingModule]).launch clumsyMain
    ∃ f g, v.failures = [f, g] ∧ f.name = "bye" ∧ f.module = none ∧ g.name = "flush" ∧
      g.module = some "store" := by
  obtain ⟨_, hnames, _⟩ := modules_own_hooks {} [] borrowingModule {} [borrowingModule]
  have hfailures : (((new {}).loaded [borrowingModule]).launch clumsyMain).failures =
      [⟨2, "bye", none, .cleanup, "late"⟩, ⟨1, "flush", some "store", .cleanup, "full"⟩] := by decide
  have hfirst := hnames clumsyMain _ (hfailures ▸ List.mem_cons_self)
  have hsecond := hnames clumsyMain _ (hfailures ▸ List.mem_cons_of_mem _ List.mem_cons_self)
  exact ⟨_, _, hfailures, rfl, hfirst.ofMain (by decide), rfl,
    hsecond.ofModule _ List.mem_cons_self (by decide)⟩

end Loader

end Bookend

import Bookend.Launch.Loader
import Bookend.Proofs.Tables

namespace Bookend

/-- The same callback, sending nothing. -/
def Callback.hushed (c : Callback) : Callback := { c with sends := [] }

/-- What becomes of a callback when those of cleanup hooks are hushed. -/
def Role.hush (r : Role) (c : Callback) : Callback :=
  match r.phase with
  | .startup => c
  | .cleanup => c.hushed

def Spec.hushed (s : Spec) : Spec := { s with callback := s.callback.map s.role.hush }

/-- The same hook, its callback sending nothing. -/
def Hook.hushed (k : Hook) : Hook := { k with callback := k.callback.map Callback.hushed }

/-- The same registry, its cleanup callbacks sending nothing. -/
def Registry.hushed (r : Registry) : Registry :=
  { r with cleanup := r.cleanup.map Hook.hushed, atExit := r.atExit.map Hook.hushed }

def Scope.hushed (s : Scope) : Scope := { s with registry := s.registry.hushed }

def Enrolment.hushed : Enrolment → Enrolment
  | onStartup name c => onStartup name c
  | onCleanup name c => onCleanup name c.hushed
  | acquire name c release => acquire name c release.hushed
  | register spec => register spec.hushed
  | fail module => fail module

/-- The same module, its cleanup callbacks sending nothing. -/
def Module.hushed (m : Module) : Module :=
  { m with steps := m.steps.map fun s => { s with enrolment := s.enrolment.hushed } }

def Loader.hushed (l : Loader) : Loader := { l with registry := l.registry.hushed }

namespace Registry
variable {r : Registry} {w : Sweep}

theorem vet_hushed (r : Registry) (s : Spec) :
    r.hushed.vet s.hushed = (r.vet s).map s.role.hush := by
  have hrefusal : r.hushed.refusal? .register = r.refusal? .register := rfl
  have hstartup : r.hushed.startup = r.startup := rfl
  simp only [vet, hrefusal, hstartup, Spec.hushed]
  cases r.refusal? .register with
  | some e => rfl
  | none =>
    cases s.callback with
    | none => rfl
    | some c =>
      cases s.role.releases with
      | none => rfl
      | some o =>
        simp only [Option.map_some]
        split <;> rfl

theorem insert_hushed (r : Registry) (h : Handle) (s : Spec) (c : Callback) :
    r.hushed.insert (.ofSpec h s.hushed (s.role.hush c)) = (r.insert (.ofSpec h s c)).hushed := by
  have hphase : (Hook.ofSpec h s c).phase = s.role.phase := rfl
  have hphase' : (Hook.ofSpec h s c).hushed.phase = s.role.phase := rfl
  cases hp : s.role.phase with
  | startup =>
    have hself : Hook.ofSpec h s.hushed (s.role.hush c) = Hook.ofSpec h s c := by
      simp [Hook.ofSpec, Spec.hushed, Role.hush, hp]
    simp only [insert, hself, hphase, hp]
    rfl
  | cleanup =>
    have hself : Hook.ofSpec h s.hushed (s.role.hush c) = (Hook.ofSpec h s c).hushed := by
      simp [Hook.ofSpec, Spec.hushed, Role.hush, Hook.hushed, hp]
    simp only [insert, hself, hphase, hphase', hp]
    simp [hushed]

theorem register_hushed (r : Registry) (s : Spec) :
    r.hushed.register s.hushed =
      { r.register s with state := (r.register s).state.hushed } := by
  simp only [register, vet_hushed]
  cases r.vet s with
  | error e => rfl
  | ok c =>
    simp only [Except.map, ← insert_hushed]
    rfl

end Registry

namespace Scope

theorem register_hushed (s : Scope) (spec : Spec) :
    s.hushed.register spec.hushed =
      { s.register spec with state := (s.register spec).state.hushed } := by
  have hspec : spec.hushed.ofModule s.module = (spec.ofModule s.module).hushed := rfl
  have hregistry : s.hushed.registry = s.registry.hushed := rfl
  have hmodule : s.hushed.module = s.module := rfl
  simp only [register, hregistry, hmodule, hspec, Registry.register_hushed]
  cases (s.registry.register (spec.ofModule s.module)).answer <;> rfl

theorem acquire_hushed (s : Scope) (name : String) (c release : Callback) :
    s.hushed.acquire name c release.hushed =
      { s.acquire name c release with state := (s.acquire name c release).state.hushed } := by
  let given (owner : Handle) (c : Callback) : Spec :=
    ((Spec.ofRole (.releasing owner)).named (name ++ ":release")).calling c
  have htaken : s.hushed.onStartup name c =
      { s.onStartup name c with state := (s.onStartup name c).state.hushed } :=
    s.register_hushed (((Spec.ofRole .startup).named name).calling c)
  have hgiven (t : Scope) (owner : Handle) : t.hushed.register (given owner release.hushed) =
      { t.register (given owner release) with
        state := (t.register (given owner release)).state.hushed } :=
    t.register_hushed (given owner release)
  simp only [acquire, htaken]
  cases (s.onStartup name c).answer with
  | error e => rfl
  | ok owner => simp only [hgiven, given]

end Scope

theorem Enrolment.perform_hushed (s : Scope) (e : Enrolment) :
    e.hushed.perform s.hushed = { e.perform s with state := (e.perform s).state.hushed } := by
  cases e with
  | onStartup name c =>
    exact s.register_hushed (((Spec.ofRole .startup).named name).calling c)
  | onCleanup name c =>
    exact s.register_hushed (((Spec.ofRole .cleanup).named name).calling c)
  | acquire name c release => exact s.acquire_hushed name c release
  | register spec => exact s.register_hushed spec
  | fail module => rfl

theorem Module.enrolAll_hushed (s : Scope) (steps : List ModuleStep) :
    enrolAll s.hushed (steps.map fun a => { a with enrolment := a.enrolment.hushed }) =
      { enrolAll s steps with state := (enrolAll s steps).state.hushed } := by
  induction steps generalizing s with
  | nil => rfl
  | cons step steps ih =>
    simp only [List.map_cons, enrolAll, Enrolment.perform_hushed, ih]
    cases (step.enrolment.perform s).answer with
    | ok h => rfl
    | error e => cases step.lenient <;> rfl

namespace Loader

theorem load_hushed (l : Loader) (m : Module) :
    l.hushed.load m.hushed = { l.load m with state := (l.load m).state.hushed } := by
  have henrol : m.hushed.enrol l.hushed.registry =
      { m.enrol l.registry with state := (m.enrol l.registry).state.hushed } :=
    Module.enrolAll_hushed (.enter m.name l.registry) m.steps
  simp only [load, henrol]
  cases (m.enrol l.registry).answer.result <;> rfl

theorem loaded_hushed (l : Loader) (ms : List Module) :
    l.hushed.loaded (ms.map Module.hushed) = (l.loaded ms).hushed := by
  induction ms generalizing l with
  | nil => rfl
  | cons m ms ih =>
    change (l.hushed.load m.hushed).state.loaded (ms.map Module.hushed) = _
    rw [load_hushed]
    exact ih (l.load m).state

end Loader
/-- Arranging does not see what the test does not see. -/
theorem arrange_map {before : α → α → Bool} (f : α → α)
    (h : ∀ a b, before (f a) (f b) = before a b) (as : List α) :
    arrange before (as.map f) = (arrange before as).map f := by
  have hinsert (a : α) (bs : List α) :
      insertBehind before (f a) (bs.map f) = (insertBehind before a bs).map f := by
    induction bs with
    | nil => rfl
    | cons b bs ih =>
      simp only [List.map_cons, insertBehind, h]
      split
      · rw [ih, List.map_cons]
      · rfl
  rw [arrange, List.foldl_map]
  change as.foldl _ ([].map f) = (as.foldl _ []).map f
  exact List.foldl_hom (List.map f) fun bs a => hinsert a bs

namespace Hook
variable (b : Bool) (k : Hook)

theorem verdict_hushed : k.hushed.verdict b = k.verdict b := by
  cases hc : k.callback with
  | none => simp [verdict, invoke, hushed, hc, Failure.ofHook, phase]
  | some c =>
    cases ho : c.outcome.under b <;>
      simp [verdict, invoke, hushed, hc, Callback.hushed, ho, Failure.ofHook, phase]

theorem tried_hushed : k.hushed.tried b = (k.tried b).hushed := by
  simp only [tried_eq, verdict_hushed]
  rfl

end Hook

/-- What a hushed cleanup pass finds and reports is what the pass finds and reports. -/
theorem drainAll_hushed (b : Bool) (ks : List Hook) :
    (drainAll b (ks.map Hook.hushed)).hooks = (drainAll b ks).hooks.map Hook.hushed ∧
      (drainAll b (ks.map Hook.hushed)).report = (drainAll b ks).report ∧
      (drainAll b (ks.map Hook.hushed)).panic = (drainAll b ks).panic := by
  induction ks with
  | nil => exact ⟨rfl, rfl, rfl⟩
  | cons k ks ih =>
    obtain ⟨hhooks, hreport, hpanic⟩ := ih
    have hhook : (k.hushed.invoke b).hook = (k.invoke b).hook.hushed := k.tried_hushed b
    have hverdict : (k.hushed.invoke b).verdict = (k.invoke b).verdict := k.verdict_hushed b
    have hhandle : (k.invoke b).hook.hushed.handle = (k.invoke b).hook.handle := rfl
    simp only [List.map_cons, drainAll, Pass.after, hhook, hverdict, hhandle]
    cases (k.invoke b).verdict <;> simp [hhooks, hreport, hpanic, Pass.cut]

namespace Registry
variable (r : Registry) (w : Sweep)

theorem cleanupPlan_hushed : r.hushed.cleanupPlan w = (r.cleanupPlan w).map Hook.hushed := by
  have heligible : r.hushed.isEligible w = r.isEligible w := rfl
  have hbefore : r.hushed.releasedBefore = r.releasedBefore := rfl
  have hclass (p : Hook → Bool) (hp : ∀ k, p k.hushed = p k) (ks : List Hook) :
      (ks.map Hook.hushed).filter p = (ks.filter p).map Hook.hushed := by
    rw [List.filter_map]
    congr 2
    exact funext hp
  have hhandlers : (if w = .full then r.hushed.atExit.reverse else []) =
      (if w = .full then r.atExit.reverse else []).map Hook.hushed := by
    split
    · exact List.map_reverse.symm
    · rfl
  have hcleanup : r.hushed.cleanup = r.cleanup.map Hook.hushed := rfl
  simp only [cleanupPlan, hhandlers, heligible, hbefore, hcleanup, List.map_append]
  rw [hclass _ fun _ => rfl, hclass _ fun _ => rfl, hclass _ fun _ => rfl, hclass _ fun _ => rfl,
    arrange_map Hook.hushed fun _ _ => rfl, arrange_map Hook.hushed fun _ _ => rfl,
    List.map_reverse]

theorem ineligible_hushed : r.hushed.ineligible w = (r.ineligible w).map Hook.hushed := by
  rw [ineligible, ineligible]
  change (r.cleanup.map Hook.hushed).filter _ = _
  rw [List.filter_map]
  rfl

theorem latest_hushed (ks : List Hook) (k : Hook) :
    latest (ks.map Hook.hushed) k.hushed = (latest ks k).hushed := by
  simp only [latest, List.find?_map]
  change ((ks.find? (·.handle == k.handle)).map Hook.hushed).getD k.hushed = _
  cases ks.find? (·.handle == k.handle) <;> rfl

theorem afterDrain_hushed (ks : List Hook) :
    r.hushed.afterDrain w (ks.map Hook.hushed) = (r.afterDrain w ks).hushed := by
  have hone (k : Hook) :
      (if r.hushed.isEligible w k.hushed then latest (ks.map Hook.hushed) k.hushed
        else k.hushed.skip) =
      (if r.isEligible w k then latest ks k else k.skip).hushed := by
    have heligible : r.hushed.isEligible w k.hushed = r.isEligible w k := rfl
    rw [heligible, latest_hushed]
    split <;> rfl
  simp only [afterDrain, hushed, Registry.mk.injEq, List.map_map, true_and, and_true]
  exact ⟨List.map_congr_left fun k _ => hone k, List.map_congr_left fun k _ => latest_hushed ks k⟩

theorem drain_hushed :
    (r.hushed.drain w).answer = (r.drain w).answer ∧
      (r.hushed.drain w).state = (r.drain w).state.hushed := by
  obtain ⟨hhooks, hreport, hpanic⟩ := drainAll_hushed r.rules.catchPanics (r.cleanupPlan w)
  have hrules : r.hushed.rules = r.rules := rfl
  simp only [drain, hrules, cleanupPlan_hushed, ineligible_hushed, hhooks, hreport, hpanic,
    afterDrain_hushed]
  split
  · exact ⟨rfl, rfl⟩
  · rw [List.map_map]
    exact ⟨rfl, rfl⟩

theorem unwind_hushed (f : Failure) (startup : PassReport) :
    (r.hushed.unwind f startup).answer = (r.unwind f startup).answer ∧
      (r.hushed.unwind f startup).state = (r.unwind f startup).state.hushed := by
  obtain ⟨hanswer, hstate⟩ := r.drain_hushed .unwind
  have hrules : r.hushed.rules = r.rules := rfl
  have habandon : r.hushed.abandon = { r.abandon with state := r.abandon.state.hushed } := by
    simp only [abandon, hushed, List.map_map]
    rfl
  cases hrule : r.rules.unwindOnStartupFailure with
  | false =>
    simp only [unwind, hrules, hrule, habandon]
    exact ⟨rfl, rfl⟩
  | true =>
    simp only [unwind, hrules, hrule, if_true, hanswer, hstate]
    cases (r.drain .unwind).answer <;> exact ⟨rfl, rfl⟩

theorem runStartup_hushed :
    r.hushed.runStartup.answer = r.runStartup.answer ∧
      r.hushed.runStartup.state = r.runStartup.state.hushed := by
  have hrefusal : r.hushed.refusal? .runStartup = r.refusal? .runStartup := rfl
  have hpass : startAll r.hushed.rules.catchPanics r.hushed.startup =
      startAll r.rules.catchPanics r.startup := rfl
  simp only [runStartup, hrefusal, hpass]
  cases r.refusal? .runStartup with
  | some e => exact ⟨rfl, rfl⟩
  | none =>
    cases (startAll r.rules.catchPanics r.startup).panic with
    | some p => exact ⟨rfl, rfl⟩
    | none =>
      cases (startAll r.rules.catchPanics r.startup).report.failures with
      | nil => exact ⟨rfl, rfl⟩
      | cons f fs =>
        let running : Registry :=
          { r with
            stage := .startupRunning
            startup := (startAll r.rules.catchPanics r.startup).hooks
            started := r.started ++ (startAll r.rules.catchPanics r.startup).report.completed }
        exact running.unwind_hushed f (startAll r.rules.catchPanics r.startup).report

theorem runCleanup_hushed : r.hushed.runCleanup.answer = r.runCleanup.answer := by
  have hrefusal : r.hushed.refusal? .runCleanup = r.refusal? .runCleanup := rfl
  have hdrain := drain_hushed { r with stage := .cleanupRunning } .full
  have hstage : { r.hushed with stage := .cleanupRunning } =
      hushed { r with stage := .cleanupRunning } := rfl
  simp only [runCleanup, hrefusal, hstage, hdrain.1]
  cases r.refusal? .runCleanup with
  | some e => rfl
  | none => cases (drain { r with stage := .cleanupRunning } .full).answer <;> rfl

end Registry

/-- What cleanup hooks send does not show in the result of a launch. -/
theorem Loader.launch_hushed (l : Loader) {p : Program} (hops : p.ops = []) :
    (l.hushed.launch p).result = (l.launch p).result := by
  obtain ⟨hanswer, hstate⟩ := l.registry.runStartup_hushed
  have hfinish (startup : PassReport) (r : Registry) :
      (l.hushed.finish startup (p.run r.hushed)).answer =
        (l.finish startup (p.run r)).answer := by
    have hleft (r : Registry) : (p.run r).registry = r := by
      rw [Program.run, hops]
      rfl
    have hmain (r : Registry) : (p.run r).finish = p.finish := rfl
    simp only [finish, hmain, hleft, r.runCleanup_hushed]
    cases p.finish with
    | panics payload => rfl
    | returns status => cases r.runCleanup.answer <;> rfl
  have hregistry : l.hushed.registry = l.registry.hushed := rfl
  have hfailed : l.hushed.failed = l.failed := rfl
  simp only [launch, around, hregistry, hfailed, hanswer, hstate]
  cases l.failed with
  | some m => rfl
  | none =>
    cases l.registry.runStartup.answer with
    | value startup => exact hfinish startup _
    | error e => cases e <;> rfl
    | panic payload => rfl

end Bookend

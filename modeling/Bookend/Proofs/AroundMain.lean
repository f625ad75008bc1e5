import Bookend.Proofs.Alone
import Bookend.Proofs.Grammar

namespace Bookend
namespace Registry
variable {r : Registry} {op : Op} {ops : List Op}

theorem unwind_startup (r : Registry) (f : Failure) (startup : PassReport) :
    (r.unwind f startup).state.startup = r.startup := by
  simp only [unwind]
  split <;> split <;> simp [drain_startup, abandon]

theorem completed_of_value (hs : r.stage = .collecting) {report : PassReport}
    (ha : r.runStartup.answer = .value report) :
    ∀ k ∈ r.startup, k.verdict r.rules.catchPanics = .completed := by
  rcases startAll_cases r.rules.catchPanics r.startup with
    hall | ⟨pre, k, post, htable, hpre, ⟨f, hk⟩ | ⟨p, hk⟩⟩
  · exact hall
  · rw [runStartup_of_failed hs ⟨htable, hpre⟩ hk] at ha
    exact absurd ha ((unwind_leads rfl f _).1 report)
  · rw [runStartup_of_panicked hs ⟨htable, hpre⟩ hk] at ha
    cases ha

/-- A startup pass that succeeds leaves the cleanup hooks as they were. -/
theorem Sound.runStartup_keeps (sound : r.Sound) (hs : r.stage = .collecting) {report : PassReport}
    (ha : r.runStartup.answer = .value report) :
    r.runStartup.state.cleanup = r.cleanup ∧ r.runStartup.state.atExit = [] := by
  rw [runStartup_of_completed hs (completed_of_value hs ha)]
  exact ⟨rfl, (sound.situation.of_collecting hs).2.1⟩

/-- A startup pass returns a value just if it leaves every startup hook completed. -/
theorem Sound.runStartup_completed (sound : r.Sound) (hs : r.stage = .collecting) :
    (∃ report, r.runStartup.answer = .value report) ↔
      ∀ k ∈ r.runStartup.state.startup, k.status = .completed := by
  constructor
  · rintro ⟨report, ha⟩
    exact ((sound.perform .runStartup).situation.of_ready (runStartup_ready hs ha)).1.1
  · intro hall
    rcases startAll_cases r.rules.catchPanics r.startup with
      hcompleted | ⟨pre, k, post, htable, hpre, ⟨f, hk⟩ | ⟨p, hk⟩⟩
    · exact ⟨_, by rw [runStartup_of_completed hs hcompleted]⟩
    · have hin : k.tried r.rules.catchPanics ∈ r.runStartup.state.startup := by
        rw [runStartup_of_failed hs ⟨htable, hpre⟩ hk]
        simp [unwind_startup, failedAt, startingUp]
      simpa [hk, Verdict.status] using hall _ hin
    · have hin : k.tried r.rules.catchPanics ∈ r.runStartup.state.startup := by
        rw [runStartup_of_panicked hs ⟨htable, hpre⟩ hk]
        simp [startingUp]
      simpa [hk, Verdict.status] using hall _ hin

/-- While a registry is ready, calls other than cleanup only add handlers. -/
theorem perform_handlers (hs : r.stage = .ready) (hop : op ≠ .runCleanup) :
    (r.perform op).state.cleanup = r.cleanup ∧
      (r.perform op).state.atExit.map Hook.handle =
        r.atExit.map Hook.handle ++ issued [r.perform op] := by
  by_cases hin : op.action.stage = .ready
  · cases op with
    | atExit name c =>
      rw [perform_of_ready hs]
      simp [issued, Hook.ofSpec]
    | register s => cases hin
    | runStartup => cases hin
    | runCleanup => exact absurd rfl hop
  · rw [perform_refused (hs ▸ Ne.symm hin)]
    simp [Turn.still, issued]

theorem run_handlers (hs : r.stage = .ready) (hops : Op.runCleanup ∉ ops) :
    (r.run ops).cleanup = r.cleanup ∧
      (r.run ops).atExit.map Hook.handle = r.atExit.map Hook.handle ++ issued (r.trail ops) := by
  induction ops generalizing r with
  | nil => exact ⟨rfl, (List.append_nil _).symm⟩
  | cons op ops ih =>
    obtain ⟨hop, hops⟩ := List.ne_and_not_mem_of_not_mem_cons hops
    obtain ⟨hcleanup, hatExit⟩ := perform_handlers hs (Ne.symm hop)
    obtain ⟨hcleanup', hatExit'⟩ := ih (perform_ready hs (Ne.symm hop)).1 hops
    refine ⟨hcleanup'.trans hcleanup, ?_⟩
    rw [issued_trail_cons, ← List.append_assoc, ← hatExit]
    exact hatExit'

theorem runCleanup_stage (hs : r.stage = .ready) :
    r.runCleanup.state.stage = .done ∨ r.runCleanup.state.stage = .cleanupRunning := by
  simp only [runCleanup, refusal?_of_stage (a := .runCleanup) hs]
  split
  · exact Or.inr (drain_stage _ _)
  · exact Or.inl rfl

/-- Once cleanup was called from a registry that was ready, it is over, or a panic left it. -/
theorem run_cleaned (hs : r.stage = .ready) (hops : .runCleanup ∈ ops) :
    (r.run ops).stage = .done ∨ (r.run ops).stage = .cleanupRunning := by
  -- up to the first cleanup call the registry stays ready, and behind it nothing is admitted
  obtain ⟨before, after, rfl, hbefore⟩ := List.eq_append_cons_of_mem hops
  have hready := (run_ready hs hbefore).1
  have hclosed : (r.run before).runCleanup.state.Closed := (runCleanup_leads hready).2
  have hrun : r.run (before ++ .runCleanup :: after) = (r.run before).runCleanup.state := by
    rw [run_append]
    exact (hclosed.trail after).1
  rw [hrun]
  exact runCleanup_stage hready

theorem run_cleaned_left (hs : r.stage = .ready) (hops : .runCleanup ∈ ops) :
    (r.run ops).stage = .cleanupRunning ↔ ∃ t ∈ r.trail ops, ∃ p, t.answer = .panic p := by
  have hfree : ¬r.Stranded := by simp [Stranded, hs]
  rw [← run_stranded hfree]
  rcases run_cleaned hs hops with h | h <;> simp [Stranded, h]

/-- A cleanup calls all that there is to clean up, or a hook that it called lets a panic out. -/
theorem Sound.runCleanup_either (sound : r.Sound) (hs : r.stage = .ready) :
    (∃ cleanup, r.runCleanup.answer = .value cleanup ∧
        cleanup.invoked.Perm ((r.cleanup ++ r.atExit).map Hook.handle) ∧
        r.runCleanup.effects.calls.map Prod.fst = cleanup.invoked ∧ cleanup.skipped = []) ∨
      ∃ p, r.runCleanup.answer = .panic p ∧ r.rules.catchPanics = false ∧
        ∃ e ∈ r.runCleanup.effects.calls, e.2.outcome = .panic p := by
  have t := sound.toTables
  have hup := (sound.situation.of_ready hs).1
  rcases drainAll_cases r.rules.catchPanics (r.cleanupPlan .full) with
    hcalm | ⟨pre, k, post, p, hplan, hpre, hk⟩
  · have ha : r.runCleanup.answer = .value (r.sweepReport .full) := by
      rw [t.runCleanup_through hs hcalm]
    obtain ⟨hinvoked, hcalls⟩ := sound.runCleanup_whole hs ha
    refine Or.inl ⟨_, ha, ?_, hcalls, by simp [sweepReport, t.ineligible_of_up hup]⟩
    rw [hinvoked]
    exact (fullOrder_perm r).map Hook.handle
  · have hleft := (t.atStage .cleanupRunning).drain_of_panicked hplan hpre hk
    obtain ⟨hcatch, c, hc, ho⟩ := Hook.verdict_panicked hk
    refine Or.inr ⟨p, ?_, hcatch, (k.handle, c), ?_, ho⟩
    · simp [runCleanup, refusal?_of_stage (a := .runCleanup) hs, hleft]
    · simp only [runCleanup, refusal?_of_stage (a := .runCleanup) hs, hleft, Journal.calls_append,
        sweepOpening_calls, List.nil_append, Pass.attempted_callsOf]
      exact List.mem_append_left _ (mem_callsOf.mpr ⟨k, by simp, rfl, hc⟩)

end Registry

namespace Loader
variable {p : Program} {m : MainRun}

theorem finish_of_panics (l : Loader) (startup : PassReport) {payload : Payload}
    (hfinish : m.finish = .panics payload) :
    l.finish startup m = .still m.registry (.panic payload) := by
  simp only [finish, hfinish]

/-- Nothing follows a main that has cleaned up itself. -/
theorem finish_of_cleaned (l : Loader) (startup : PassReport) {status : Int32} {r : Registry}
    (hs : r.stage = .ready) (hfinish : p.finish = .returns status) (hops : .runCleanup ∈ p.ops) :
    l.finish startup (p.run r) =
      .still (r.run p.ops) (.error (.invalidPhase .runCleanup (r.run p.ops).stage)) := by
  have hready : (r.run p.ops).stage ≠ .ready := by
    rcases Registry.run_cleaned hs hops with h | h <;> simp [h]
  have hrefusal : (r.run p.ops).refusal? .runCleanup =
      some (.invalidPhase .runCleanup (r.run p.ops).stage) := if_neg hready
  simp only [finish, Program.run, hfinish, Registry.runCleanup, hrefusal]
  rfl

/-- What main leaves ready is cleaned up, the handlers that main added included. -/
theorem finish_of_left (l : Loader) (startup : PassReport) {status : Int32} {r : Registry}
    (sound : r.Sound) (hs : r.stage = .ready) (hfinish : p.finish = .returns status)
    (hops : .runCleanup ∉ p.ops) :
    let q := r.run p.ops
    let down := l.finish startup (p.run r)
    down.state = q.runCleanup.state ∧ down.effects.calls = q.runCleanup.effects.calls ∧
      ((∃ cleanup, q.runCleanup.answer = .value cleanup ∧
          down.answer = .value ⟨.completed startup status cleanup, l.codes⟩ ∧
          cleanup.invoked.Perm
            ((r.cleanup ++ r.atExit).map Hook.handle ++ issued (r.trail p.ops)) ∧
          q.runCleanup.effects.calls.map Prod.fst = cleanup.invoked ∧ cleanup.skipped = []) ∨
        ∃ payload, q.runCleanup.answer = .panic payload ∧ down.answer = .panic payload ∧
          q.rules.catchPanics = false ∧
          ∃ e ∈ q.runCleanup.effects.calls, e.2.outcome = .panic payload) := by
  intro q down
  have hreturns : (p.run r).finish = .returns status := hfinish
  have hq : (p.run r).registry = r.run p.ops := rfl
  obtain ⟨hcalls, hanswer⟩ := l.finish_of_returns startup hreturns
  rw [hq] at hcalls hanswer
  have hstate : down.state = q.runCleanup.state := by
    simp only [down, finish, hreturns]
    split <;> rfl
  refine ⟨hstate, hcalls, ?_⟩
  rcases (sound.run p.ops).runCleanup_either (Registry.run_ready hs hops).1 with
    ⟨cleanup, ha, hinvoked, hcalled, hskipped⟩ | ⟨payload, ha, hpanic⟩
  · rw [ha] at hanswer
    obtain ⟨hkept, hadded⟩ := Registry.run_handlers hs hops
    rw [List.map_append, hkept, hadded, ← List.append_assoc, ← List.map_append] at hinvoked
    exact Or.inl ⟨cleanup, ha, hanswer, hinvoked, hcalled, hskipped⟩
  · rw [ha] at hanswer
    exact Or.inr ⟨payload, ha, hanswer, hpanic⟩

/-- A launch around any main: main is entered if startup completed, on a registry that is ready.
If it cleaned up itself or panicked, nothing follows it. Otherwise what it left is cleaned up. -/
theorem launch_around_main (s : Settings) (ms : List Module) (p : Program)
    (hloads : ∀ t ∈ (new s).loadAll ms, t.answer.result = .ok ()) :
    let l := (new s).loaded ms
    let up := l.registry.runStartup
    let v := l.launch p
    (v.entered.isSome = true ↔ ∀ k ∈ up.state.startup, k.status = .completed) ∧
      ∀ r, v.entered = some r →
        r = up.state ∧ r.stage = .ready ∧ v.trail = r.trail p.ops ∧
        v.effects.beforeMain.calls = up.effects.calls ∧
        let q := r.run p.ops
        ∃ startup after, up.answer = .value startup ∧
          v.effects.afterMain.calls = (journalOf v.trail).calls ++ after ∧
          (∀ payload, p.finish = .panics payload →
            v.result = .panic payload ∧ v.registry = q ∧ after = []) ∧
          ∀ status, p.finish = .returns status →
            (.runCleanup ∈ p.ops →
              v.result = .error (.invalidPhase .runCleanup q.stage) ∧ v.registry = q ∧
              after = [] ∧ (q.stage = .done ∨ q.stage = .cleanupRunning) ∧
              (q.stage = .cleanupRunning ↔
                ∃ t ∈ v.trail, ∃ payload, t.answer = .panic payload)) ∧
            (.runCleanup ∉ p.ops →
              v.registry = q.runCleanup.state ∧ after = q.runCleanup.effects.calls ∧
              ((∃ cleanup, q.runCleanup.answer = .value cleanup ∧
                  v.result = .value ⟨.completed startup status cleanup, s.exit⟩ ∧
                  cleanup.invoked.Perm (l.registry.cleanup.map Hook.handle ++ issued v.trail) ∧
                  after.map Prod.fst = cleanup.invoked ∧ cleanup.skipped = []) ∨
                ∃ payload, q.runCleanup.answer = .panic payload ∧ v.result = .panic payload ∧
                  s.registry.catchPanics = false ∧ ∃ e ∈ after, e.2.outcome = .panic payload)) := by
  intro l up v
  obtain ⟨sound, hstage, hrules, hfailed, hcodes⟩ : l.registry.Sound ∧
      l.registry.stage = .collecting ∧ l.registry.rules = s.registry ∧ l.failed = none ∧
      l.codes = s.exit := loaded_sound hloads
  have hcompleted := sound.runStartup_completed hstage
  have hout (hentered : v.entered = none) (hnone : ∀ report, up.answer ≠ .value report) :
      v.entered.isSome = true ↔ ∀ k ∈ up.state.startup, k.status = .completed := by
    rw [← hcompleted, hentered]
    exact iff_of_false (by simp) fun ⟨report, ha⟩ => hnone report ha
  -- main is entered in the first of these cases only
  rcases Registry.runStartup_answer hstage with
    ⟨startup, hup, hready⟩ | ⟨f, startup, unwind, hup⟩ | ⟨payload, hup⟩
  · have hlaunch : v = _ := launch_of_value (p := p) hfailed hup
    have hentered : v.entered = some up.state := by rw [hlaunch]
    have hresult : v.result = (l.finish startup (p.run up.state)).answer := by rw [hlaunch]
    have hregistry : v.registry = (l.finish startup (p.run up.state)).state := by rw [hlaunch]
    have htrail : v.trail = up.state.trail p.ops := by rw [hlaunch]
    obtain ⟨hbefore, hafter⟩ := launch_calls (p := p) hfailed hup
    have hsound : up.state.Sound := sound.perform .runStartup
    have hrules' : up.state.rules = s.registry := (sound.run_rules [.runStartup]).trans hrules
    refine ⟨?_, fun r hr => ?_⟩
    · rw [← hcompleted, hentered]
      exact iff_of_true rfl ⟨startup, hup⟩
    obtain rfl : up.state = r := Option.some.inj (hentered.symm.trans hr)
    rw [hresult, hregistry, htrail]
    refine ⟨rfl, hready, rfl, hbefore, startup, _, hup, hafter, ?_, ?_⟩
    · intro payload hfinish
      rw [l.finish_of_panics startup (m := p.run up.state) hfinish]
      exact ⟨rfl, rfl, rfl⟩
    · intro status hfinish
      refine ⟨fun hops => ?_, fun hops => ?_⟩
      · rw [l.finish_of_cleaned startup hready hfinish hops]
        exact ⟨rfl, rfl, rfl, Registry.run_cleaned hready hops,
          Registry.run_cleaned_left hready hops⟩
      · obtain ⟨hstate, hcalls, hdown⟩ := l.finish_of_left startup hsound hready hfinish hops
        obtain ⟨hcleanup, hnone⟩ := sound.runStartup_keeps hstage hup
        rw [hcleanup, hnone, List.append_nil, hcodes, hsound.run_rules, hrules'] at hdown
        rw [hcalls]
        exact ⟨hstate, rfl, hdown⟩
  · have hentered := (launch_of_aborted (p := p) hfailed hup).2
    exact ⟨hout hentered (by simp [up, hup]), fun r hr => by cases hentered.symm.trans hr⟩
  · have hentered : v.entered = none := by simp [v, launch, around, hfailed, hup]
    exact ⟨hout hentered (by simp [up, hup]), fun r hr => by cases hentered.symm.trans hr⟩

/-- One module that acquires, and cleans up something of its own. -/
def storeModule : Module :=
  ⟨"store", [⟨.acquire "open" ⟨none, [], .ok⟩ ⟨none, [], .ok⟩, false⟩,
    ⟨.onCleanup "flush" ⟨none, [], .error "full"⟩, false⟩]⟩

/-- A main with handlers of its own and with calls that come too late. -/
def restlessMain : Program :=
  ⟨none, [.register ⟨.cleanup, none, none, none, some ⟨none, [], .ok⟩⟩,
    .atExit "first" ⟨none, [], .ok⟩, .runStartup, .atExit "second" ⟨none, [], .ok⟩], .returns 7⟩

/-- A main that cleans up itself. -/
def tidyMain : Program :=
  ⟨none, [.runStartup, .runCleanup, .atExit "late" ⟨none, [], .ok⟩, .runCleanup], .returns 0⟩

theorem launch_around_main_restless :
    let l := (new {}).loaded [storeModule]
    (∃ startup cleanup,
      (l.launch restlessMain).result = .value ⟨.completed startup 7 cleanup, {}⟩ ∧
        cleanup.invoked.Perm [2, 3, 4, 5]) ∧
      (l.launch tidyMain).result = .error (.invalidPhase .runCleanup .done) := by
  intro l
  have hloads : ∀ t ∈ (new {}).loadAll [storeModule], t.answer.result = .ok () := by decide
  refine ⟨?_, ?_⟩
  · obtain ⟨_, _, _, _, startup, _, _, _, _, hreturns⟩ :=
      (launch_around_main {} [storeModule] restlessMain hloads).2 _ rfl
    obtain ⟨_, _, ⟨cleanup, _, hresult, hinvoked, _⟩ | ⟨payload, _, _, hcatch, _⟩⟩ :=
      (hreturns 7 rfl).2 (by decide)
    · exact ⟨startup, cleanup, hresult, hinvoked⟩
    · cases hcatch
  · obtain ⟨_, _, _, _, startup, _, _, _, _, hreturns⟩ :=
      (launch_around_main {} [storeModule] tidyMain hloads).2 _ rfl
    exact ((hreturns 0 rfl).1 (by decide)).1

end Loader
end Bookend

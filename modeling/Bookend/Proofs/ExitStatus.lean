import Bookend.Proofs.Enrolment
import Bookend.Proofs.Rules
import Bookend.Proofs.Unwind

namespace Bookend

/-- Settings that pass their check have two failure codes that a process can hand on. -/
theorem Settings.codes_of_check {s : Settings} (h : s.check = .ok s) :
    isFailureCode s.exit.startupFailure = true ∧ isFailureCode s.exit.cleanupFailure = true ∧
      s.exit.startupFailure ≠ s.exit.cleanupFailure := by
  obtain ⟨_, hkept⟩ := check_eq_ok.mp h
  exact ⟨(isFailureCode_iff _).mpr (hkept .startupRange),
    (isFailureCode_iff _).mpr (hkept .cleanupRange), hkept .codesApart⟩

theorem Settings.check_default : ({} : Settings).check = .ok {} := by
  apply check_eq_ok.mpr
  refine ⟨rfl, ?_⟩
  intro r
  cases r <;> decide

theorem Settings.ne_zero_of_isFailureCode {c : Int32} (h : isFailureCode c = true) : c ≠ 0 := by
  rintro rfl
  simp [isFailureCode] at h

/-- Handing a code on as a byte does not make success out of a failure, nor the reverse. -/
theorem LaunchReport.exitByte_eq_zero (r : LaunchReport) : r.exitByte = 0 ↔ r.exitCode = 0 := by
  have hzero : r.exitCode = 0 ↔ r.exitCode.toInt = 0 := by
    rw [← Int32.toInt_inj]
    rfl
  rw [hzero]
  unfold exitByte
  dsimp only
  split
  · rename_i hrange
    rw [← UInt8.toNat_inj]
    simp only [UInt8.toNat_ofNat', UInt8.toNat_ofNat]
    omega
  · rename_i hrange
    refine iff_of_false (by decide) ?_
    omega

theorem LaunchReport.exitCode_completed {startup cleanup : PassReport} {status : Int32}
    {codes : ExitCodes} (hne : codes.cleanupFailure ≠ 0) :
    LaunchReport.exitCode ⟨.completed startup status cleanup, codes⟩ = 0 ↔
      status = 0 ∧ cleanup.success = true := by
  unfold exitCode
  by_cases hs : status = 0
  · cases hc : cleanup.success <;> simp [hs, hc, hne]
  · simp [hs]

theorem LaunchReport.exitCode_not_success {startup cleanup : PassReport} {codes : ExitCodes}
    (h : cleanup.success = false) :
    LaunchReport.exitCode ⟨.completed startup 0 cleanup, codes⟩ = codes.cleanupFailure := by
  simp [exitCode, h]

namespace Registry
variable {r : Registry} {w : Sweep}

theorem sweepReport_success
    (hcalm : ∀ k ∈ r.cleanupPlan w, ∀ p, k.verdict r.rules.catchPanics ≠ .panicked p) :
    (r.sweepReport w).success = true ↔
      ∀ k ∈ r.cleanupPlan w, k.verdict r.rules.catchPanics = .completed := by
  simp only [PassReport.success, sweepReport, List.isEmpty_iff, List.filterMap_eq_nil_iff]
  refine forall₂_congr fun k hk => ?_
  cases hv : k.verdict r.rules.catchPanics with
  | completed => simp [Verdict.failure?]
  | failed f => simp [Verdict.failure?]
  | panicked p => exact absurd hv (hcalm k hk p)

theorem Tables.mem_completed (t : r.Tables) {k : Hook} (hk : k ∈ r.cleanupPlan w) :
    k.handle ∈ (r.sweepReport w).completed ↔ k.verdict r.rules.catchPanics = .completed := by
  simp only [sweepReport]
  constructor
  · intro hm
    obtain ⟨a, ha, he⟩ := List.mem_map.mp hm
    obtain ⟨hin, hv⟩ := List.mem_filter.mp ha
    rw [← List.inj_on_of_nodup_map (t.plan_nodup w) hin hk he]
    simpa using hv
  · intro hv
    exact List.mem_map_of_mem (List.mem_filter.mpr ⟨hk, by simp [hv]⟩)

theorem Tables.mem_plan_of_up (t : r.Tables) (hup : r.Up) {k : Hook} :
    k ∈ r.cleanupPlan .full ↔ k ∈ r.cleanup ++ r.atExit := by
  rw [t.cleanupPlan_of_up hup]
  exact (fullOrder_perm r).mem_iff

/-- A full cleanup is a success just if every hook that there is has completed by then. -/
theorem Tables.success_iff (t : r.Tables) (hup : r.Up)
    (hcalm : ∀ k ∈ r.cleanupPlan .full, ∀ p, k.verdict r.rules.catchPanics ≠ .panicked p) :
    (r.sweepReport .full).success = true ↔
      ∀ h ∈ r.hooks.map Hook.handle, h ∈ r.startupOrder ∨ h ∈ (r.sweepReport .full).completed := by
  rw [sweepReport_success hcalm]
  constructor
  · intro hall h hh
    obtain ⟨k, hk, rfl⟩ := List.mem_map.mp hh
    rcases mem_hooks.mp hk with hk | hk
    · exact Or.inl (List.mem_map_of_mem hk)
    · have hin := (t.mem_plan_of_up hup).mpr (List.mem_append.mpr hk)
      exact Or.inr ((t.mem_completed hin).mpr (hall k hin))
  · intro hall k hk
    have hmem := (t.mem_plan_of_up hup).mp hk
    rcases hall k.handle (List.mem_map_of_mem (mem_hooks_of_mem hmem)) with hs | hc
    · -- a startup hook would have to share its handle with a cleanup hook
      exact absurd (List.mem_map_of_mem hmem) (t.startup_disjoint hs)
    · exact (t.mem_completed hk).mp hc

/-- A hook that a full cleanup leaves failed is not kept quiet. -/
theorem Tables.not_success_of_failed (t : r.Tables) (hup : r.Up)
    (hcalm : ∀ k ∈ r.cleanupPlan .full, ∀ p, k.verdict r.rules.catchPanics ≠ .panicked p)
    {a : Hook} (ha : a ∈ (r.swept .full ((r.cleanupPlan .full).map Hook.handle)).cleanup ++
      (r.swept .full ((r.cleanupPlan .full).map Hook.handle)).atExit)
    (hfailed : a.status = .failed) : (r.sweepReport .full).success = false := by
  obtain ⟨k, hk, rfl⟩ : ∃ k ∈ r.cleanupPlan .full, a = k.tried r.rules.catchPanics := by
    rcases List.mem_append.mp ha with ha | ha
    · obtain ⟨k, hk, _, rfl⟩ := mem_swept_cleanup ha
      have hin := (t.mem_plan_of_up hup).mpr (List.mem_append_left _ hk)
      refine ⟨k, hin, ?_⟩
      simp [t.eligible_of_up hup k hk, Hook.settle, List.mem_map_of_mem hin]
    · obtain ⟨k, hk, rfl⟩ := mem_swept_atExit ha
      have hin := (t.mem_plan_of_up hup).mpr (List.mem_append_right _ hk)
      exact ⟨k, hin, by simp [Hook.settle, List.mem_map_of_mem hin]⟩
  rw [← Bool.not_eq_true, sweepReport_success hcalm]
  intro hall
  simp [hall k hk, Verdict.status] at hfailed

/-- While a registry is ready, nothing but a cleanup changes that. -/
theorem perform_ready (hs : r.stage = .ready) {op : Op} (hop : op ≠ .runCleanup) :
    (r.perform op).state.stage = .ready ∧ (r.perform op).state.startup = r.startup := by
  cases op with
  | register spec =>
    have hrefused : r.refusal? .register = some (.invalidPhase .register .ready) := by
      simp [refusal?, Action.stage, hs]
    simp [perform, register, vet, hrefused, Turn.map, Turn.still, hs]
  | atExit name c =>
    rw [perform_of_ready hs]
    exact ⟨hs, rfl⟩
  | runStartup => simp [perform, runStartup, refusal?, Action.stage, Turn.map, Turn.still, hs]
  | runCleanup => exact absurd rfl hop

theorem run_ready (hs : r.stage = .ready) {ops : List Op} (hops : Op.runCleanup ∉ ops) :
    (r.run ops).stage = .ready ∧ (r.run ops).startup = r.startup := by
  refine run_keeps (p := fun s => s.stage = .ready ∧ s.startup = r.startup) ?_ ⟨hs, rfl⟩
  rintro s op hop ⟨hstage, hstartup⟩
  obtain ⟨hstage', hstartup'⟩ := perform_ready hstage (ne_of_mem_of_not_mem hop hops)
  exact ⟨hstage', hstartup'.trans hstartup⟩

end Registry

/-- Every handle given out while modules were loaded and while main ran. -/
def Launch.handles (loads : List (Turn Loader Enrolled)) (l : Launch) : List Handle :=
  loads.flatMap (·.answer.handles) ++ issued l.trail

namespace Loader
variable {l : Loader} {p : Program} {status : Int32}

theorem launch_of_value {startup : PassReport} (hfailed : l.failed = none)
    (hup : l.registry.runStartup.answer = .value startup) :
    l.launch p =
      let up := l.registry.runStartup
      let down := l.finish startup (p.run up.state)
      ⟨down.answer, some up.state, up.state.trail p.ops, down.state,
        up.effects ++ .event .enteringMain :: (p.run up.state).effects ++ down.effects⟩ := by
  simp only [launch, around, hfailed, hup]
  rfl

theorem launch_of_aborted {f : Failure} {startup unwind : PassReport} (hfailed : l.failed = none)
    (hup : l.registry.runStartup.answer = .error (.callbackFailure f startup unwind)) :
    (l.launch p).result = .value ⟨.startupAborted f startup unwind, l.codes⟩ ∧
      (l.launch p).entered = none := by
  simp [launch, around, hfailed, hup]

theorem finish_calm {b : Bool} {startup : PassReport} {m : MainRun}
    (hfinish : m.finish = .returns status) (h : (l.finish startup m).effects.Calm b) :
    m.registry.runCleanup.effects.Calm b := by
  intro e he
  apply h e
  simp only [finish, hfinish]
  split <;> simp [he]

theorem startup_calm {b : Bool} (hfailed : l.failed = none) (h : (l.launch p).effects.Calm b) :
    l.registry.runStartup.effects.Calm b := by
  intro e he
  apply h e
  simp only [launch, around, hfailed]
  split <;> simp [he]

/-- A launch whose startup succeeds cleans up what main leaves, and reports both passes. -/
theorem launch_of_completed (sound : l.registry.Sound) (hfailed : l.failed = none)
    (hs : l.registry.stage = .collecting)
    (hall : ∀ k ∈ l.registry.startup, k.verdict l.registry.rules.catchPanics = .completed)
    (hmain : Op.runCleanup ∉ p.ops) (hfinish : p.finish = .returns status)
    (hcalm : (l.launch p).effects.Calm l.registry.rules.catchPanics) :
    let r := l.registry.run (.runStartup :: p.ops)
    r.Up ∧ (∀ k ∈ r.cleanupPlan .full, ∀ q, k.verdict r.rules.catchPanics ≠ .panicked q) ∧
      (l.launch p).result =
        .value ⟨.completed ⟨.startup, r.startupOrder, r.startupOrder, [], []⟩ status
          (r.sweepReport .full), l.codes⟩ ∧
      (l.launch p).entered.isSome = true ∧
      (l.launch p).trail = (l.registry.run [.runStartup]).trail p.ops ∧
      (l.launch p).registry =
        { r.swept .full ((r.cleanupPlan .full).map Hook.handle) with stage := .done } := by
  intro r
  have hrun := Registry.runStartup_of_completed hs hall
  have hsound : r.Sound := sound.run _
  have hrules : r.rules = l.registry.rules := sound.run_rules _
  have hready : l.registry.runStartup.state.stage = .ready := by rw [hrun]
  obtain ⟨hstage, hstartup⟩ : r.stage = .ready ∧ r.startup = l.registry.runStartup.state.startup :=
    Registry.run_ready hready hmain
  have horder : r.startupOrder = l.registry.startupOrder := by
    simp only [Registry.startupOrder, hstartup, hrun, Registry.startingUp, List.map_map]
    exact List.map_congr_left fun k _ => Hook.tried_handle _ k
  have hlaunch := launch_of_value (p := p) hfailed (by rw [hrun])
  have hdown : r.runCleanup.effects.Calm r.rules.catchPanics := by
    rw [hlaunch, ← hrules] at hcalm
    exact finish_calm (m := p.run l.registry.runStartup.state) hfinish hcalm.right
  obtain ⟨hup, _⟩ := hsound.situation.of_ready hstage
  have hcleanup := hsound.runCleanup_of_calm hstage hdown
  have hfinal : (l.registry.runStartup.state.run p.ops).runCleanup = _ := hcleanup
  refine ⟨hup, Registry.runCleanup_calm hstage hdown, ?_, ?_, ?_, ?_⟩
  · rw [hlaunch, horder]
    simp only [finish, Program.run, hfinish, hfinal]
  · rw [hlaunch]
    rfl
  · rw [hlaunch]
    rfl
  · rw [hlaunch]
    simp only [finish, Program.run, hfinish, hfinal]

/-- The loader after loads that all went well. -/
theorem loaded_sound {s : Settings} {ms : List Module}
    (hloads : ∀ t ∈ (new s).loadAll ms, t.answer.result = .ok ()) :
    let l := (new s).loaded ms
    l.registry.Sound ∧ l.registry.stage = .collecting ∧ l.registry.rules = s.registry ∧
      l.failed = none ∧ l.codes = s.exit := by
  obtain ⟨sound, hstage, hrules⟩ := loaded_collecting s ms
  exact ⟨sound, hstage, hrules, (new s).loaded_kept ms hloads⟩

/-- What main leaves holds a hook for every handle that was ever given out, and no other. -/
theorem launch_handles {s : Settings} {ms : List Module} {l : Launch}
    (htrail : l.trail = (((new s).loaded ms).registry.run [.runStartup]).trail p.ops) :
    (l.handles ((new s).loadAll ms)).Perm
      ((((new s).loaded ms).registry.run (.runStartup :: p.ops)).hooks.map Hook.handle) := by
  obtain ⟨specs, hregistry, hgiven⟩ := loaded_new s ms
  have hall := Registry.issued_perm s.registry (specs.map .register ++ .runStartup :: p.ops)
  have hstart (r : Registry) : issued (r.trail [.runStartup]) = [] := by
    rw [(r.trail_issued [.runStartup]).2]
    simp [Registry.run, Registry.perform, Turn.map, Registry.runStartup_next]
  have hsplit : l.handles ((new s).loadAll ms) =
      issued ((Registry.new s.registry).trail (specs.map .register ++ .runStartup :: p.ops)) := by
    have hmid := hstart ((new s).loaded ms).registry
    rw [Registry.trail_append, ← hregistry, ← List.singleton_append, Registry.trail_append]
    simp only [issued, List.filterMap_append] at hmid hgiven ⊢
    rw [hmid, Launch.handles, hgiven, htrail]
    rfl
  rw [← hsplit, Registry.run_append, ← hregistry] at hall
  exact hall

/-- An exit code of zero stands for a main that returned zero and hooks that all completed;
each kind of failure has a code of its own, also as a byte. -/
theorem launch_exit_status (s : Settings) (ms : List Module) (p : Program) (status : Int32)
    (hcheck : s.check = .ok s)
    (hloads : ∀ t ∈ (new s).loadAll ms, t.answer.result = .ok ())
    (hmain : Op.runCleanup ∉ p.ops) (hfinish : p.finish = .returns status)
    (hcalm : (((new s).loaded ms).launch p).effects.Calm s.registry.catchPanics) :
    let l := ((new s).loaded ms).launch p
    ∃ report, l.result = .value report ∧ report.mainRan = l.entered.isSome ∧
      (report.exitCode = 0 ↔ status = 0 ∧ ∃ startup cleanup,
        report.outcome = .completed startup status cleanup ∧
          ∀ h ∈ l.handles ((new s).loadAll ms), h ∈ startup.completed ∨ h ∈ cleanup.completed) ∧
      (report.mainRan = false → report.exitCode = s.exit.startupFailure) ∧
      (report.mainRan = true → status ≠ 0 → report.exitCode = status) ∧
      (report.mainRan = true → status = 0 →
        (∃ k ∈ l.registry.cleanup ++ l.registry.atExit, k.status = .failed) →
          report.exitCode = s.exit.cleanupFailure) ∧
      s.exit.cleanupFailure ≠ s.exit.startupFailure ∧
      (1 ≤ s.exit.startupFailure.toInt ∧ s.exit.startupFailure.toInt ≤ 255) ∧
      (1 ≤ s.exit.cleanupFailure.toInt ∧ s.exit.cleanupFailure.toInt ≤ 255) ∧
      (report.exitByte = 0 ↔ report.exitCode = 0) := by
  intro l
  obtain ⟨sound, hstage, hrules, hfailed, hcodes⟩ := loaded_sound hloads
  obtain ⟨hstartup, hcleanup, hdiffer⟩ := s.codes_of_check hcheck
  have hrange {c : Int32} (h : Settings.isFailureCode c = true) : 1 ≤ c.toInt ∧ c.toInt ≤ 255 := by
    simpa [Settings.isFailureCode] using h
  rw [← hrules] at hcalm
  rcases sound.runStartup_of_calm hstage (startup_calm hfailed hcalm) with
    hall | ⟨f, startup, unwind, hanswer⟩
  · obtain ⟨hup, hplan, hresult, hentered, htrail, hfinal⟩ :=
      launch_of_completed sound hfailed hstage hall hmain hfinish hcalm
    let r := ((new s).loaded ms).registry.run (.runStartup :: p.ops)
    have hsound : r.Sound := sound.run _
    have hne := Settings.ne_zero_of_isFailureCode hcleanup
    have hlisted : (∀ h ∈ l.handles ((new s).loadAll ms),
        h ∈ r.startupOrder ∨ h ∈ (r.sweepReport .full).completed) ↔
        (r.sweepReport .full).success = true := by
      rw [hsound.success_iff hup hplan]
      exact forall_congr' fun h => imp_congr_left (launch_handles htrail).mem_iff
    refine ⟨_, hresult, ?_, ?_, ?_, ?_, ?_, hdiffer.symm, hrange hstartup, hrange hcleanup,
      LaunchReport.exitByte_eq_zero _⟩
    · simp [l, hentered, LaunchReport.mainRan]
    · rw [LaunchReport.exitCode_completed (by rw [hcodes]; exact hne), ← hlisted]
      constructor
      · rintro ⟨hzero, hall⟩
        exact ⟨hzero, _, _, rfl, hall⟩
      · rintro ⟨hzero, _, _, heq, hall⟩
        cases heq
        exact ⟨hzero, hall⟩
    · simp [LaunchReport.mainRan]
    · rintro _ hown
      simp [LaunchReport.exitCode, hown]
    · rintro _ rfl ⟨k, hk, hbad⟩
      have hswept : k ∈ (r.swept .full ((r.cleanupPlan .full).map Hook.handle)).cleanup ++
          (r.swept .full ((r.cleanupPlan .full).map Hook.handle)).atExit := by
        simpa only [l, hfinal] using hk
      have hloud := hsound.not_success_of_failed hup hplan hswept hbad
      rw [LaunchReport.exitCode_not_success hloud, hcodes]
  · obtain ⟨hresult, hentered⟩ := launch_of_aborted (p := p) hfailed hanswer
    have hne := Settings.ne_zero_of_isFailureCode hstartup
    refine ⟨_, hresult, ?_, ?_, ?_, ?_, ?_, hdiffer.symm, hrange hstartup, hrange hcleanup,
      LaunchReport.exitByte_eq_zero _⟩
    · simp [l, hentered, LaunchReport.mainRan]
    · simp [LaunchReport.exitCode, hcodes, hne]
    · simp [LaunchReport.exitCode, hcodes]
    · simp [LaunchReport.mainRan]
    · simp [LaunchReport.mainRan]

/-- A main that returns zero, with a handler of its own that fails. -/
def sloppyMain : Program := ⟨none, [.atExit "last" ⟨none, [], .error "late"⟩], .returns 0⟩

theorem launch_exit_status_sloppy :
    let store : Module :=
      ⟨"store", [⟨.acquire "open" ⟨none, [], .ok⟩ ⟨none, [], .ok⟩, false⟩,
        ⟨.onCleanup "flush" ⟨none, [], .ok⟩, false⟩]⟩
    ∃ report, (((new {}).loaded [store]).launch sloppyMain).result = .value report ∧
      report.mainRan = true ∧ report.exitCode = 1 := by
  intro store
  have hloads : ∀ t ∈ (new {}).loadAll [store], t.answer.result = .ok () := by decide
  obtain ⟨report, hresult, hran, _, _, _, hfailing, _⟩ :=
    launch_exit_status {} [store] sloppyMain 0 Settings.check_default hloads (by decide) rfl
      fun _ _ _ _ => rfl
  have hentered : report.mainRan = true := hran.trans (by decide)
  exact ⟨report, hresult, hentered, hfailing hentered rfl (by decide)⟩

end Loader
end Bookend

import Bookend.Proofs.ExitStatus
import Bookend.Proofs.Hosting

namespace Bookend

/-- A main that does nothing and returns zero. -/
def Program.idle : Program := ⟨none, [], .returns 0⟩

def Effect.isMain : Effect → Bool
  | .main _ _ => true
  | _ => false

theorem Effect.isMain_of_isInner {e : Effect} (h : e.isInner = true) : e.isMain = false := by
  cases e with
  | main l rs => cases h
  | _ => rfl

namespace Journal

/-- What was left before main was entered, all of it if main never was. -/
def beforeMain (j : Journal) : Journal := j.takeWhile fun e => !e.isMain

/-- What was left after main was entered. -/
def afterMain (j : Journal) : Journal := (j.dropWhile fun e => !e.isMain).tail

variable {i j : Journal}

@[simp] theorem beforeMain_nil : beforeMain [] = [] := rfl

@[simp] theorem beforeMain_event (e : Event) (j : Journal) :
    beforeMain (.event e :: j) = .event e :: j.beforeMain := rfl

@[simp] theorem beforeMain_main (l : Option String) (rs : List Reason) (j : Journal) :
    beforeMain (.main l rs :: j) = [] := rfl

@[simp] theorem afterMain_event (e : Event) (j : Journal) :
    afterMain (.event e :: j) = j.afterMain := rfl

@[simp] theorem afterMain_main (l : Option String) (rs : List Reason) (j : Journal) :
    afterMain (.main l rs :: j) = j := rfl

theorem beforeMain_append (h : i.all Effect.isInner = true) :
    (i ++ j).beforeMain = i ++ j.beforeMain :=
  List.takeWhile_append_of_pos fun e he => by
    simp [Effect.isMain_of_isInner (List.all_eq_true.mp h e he)]

theorem afterMain_append (h : i.all Effect.isInner = true) : (i ++ j).afterMain = j.afterMain := by
  rw [afterMain, List.dropWhile_append_of_pos fun e he => by
    simp [Effect.isMain_of_isInner (List.all_eq_true.mp h e he)]]
  rfl

end Journal

/-- Of what main leaves, nothing but its calls on the registry calls a hook. -/
theorem Program.run_effects (p : Program) (r : Registry) :
    ∃ j : Journal, (p.run r).effects = .main p.label [] :: (journalOf (r.trail p.ops) ++ j) ∧
      j.calls = [] := by
  cases hf : p.finish with
  | returns status => exact ⟨[.event (.mainReturned status)], by simp [run, hf], rfl⟩
  | panics payload => exact ⟨[], by simp [run, hf], rfl⟩

namespace Loader
variable {l : Loader}

theorem load_new (s : Settings) (m : Module) :
    ((new s).load m).answer = (m.enrol (.new s.registry)).answer ∧
      ((new s).load m).state.registry = m.filled s.registry ∧
      ((new s).load m).effects.calls = [] := by
  have hcalls : (m.enrol (.new s.registry)).effects.calls = [] := Module.enrolAll_calls _ _
  simp only [load]
  split <;> exact ⟨rfl, rfl, by simp [new, hcalls]⟩

theorem load_new_failed (s : Settings) {m : Module}
    (hok : (m.enrol (.new s.registry)).answer.result = .ok ()) :
    ((new s).load m).state.failed = none := by
  have hresult : (m.enrol (new s).registry).answer.result = .ok () := hok
  simp only [load, hresult]
  rfl

/-- A launch around an idle main agrees with the startup of its registry in what it answers. -/
def StartsAs (l : Loader) (answer : Ending PassReport) : Prop :=
  match answer with
  | .value startup =>
    l.registry.runStartup.answer = .value startup ∧
      (l.launch .idle).entered = some l.registry.runStartup.state ∧
      ∀ report, (l.launch .idle).result = .value report →
        ∃ cleanup, report = ⟨.completed startup 0 cleanup, l.codes⟩
  | .error e =>
    ∃ f startup unwind, e = .callbackFailure f startup unwind ∧
      (l.launch .idle).entered = none ∧
      (l.launch .idle).result = .value ⟨.startupAborted f startup unwind, l.codes⟩
  | .panic p => (l.launch .idle).entered = none ∧ (l.launch .idle).result = .panic p

theorem finish_of_returns (l : Loader) (startup : PassReport) {m : MainRun} {status : Int32}
    (hfinish : m.finish = .returns status) :
    (l.finish startup m).effects.calls = m.registry.runCleanup.effects.calls ∧
      (l.finish startup m).answer =
        match m.registry.runCleanup.answer with
        | .value cleanup => .value ⟨.completed startup status cleanup, l.codes⟩
        | .error e => .error e
        | .panic p => .panic p := by
  have hwarned (fs : List Failure) :
      Journal.calls (fs.map fun f => .event (.cleanupHookFailure f.text)) = [] := by
    induction fs with
    | nil => rfl
    | cons f fs ih => exact ih
  simp only [finish, hfinish]
  cases m.registry.runCleanup.answer <;> simp [hwarned]

/-- A launch that enters main runs the callbacks of the startup pass before that, and those of
main's own calls and of what follows after it. -/
theorem launch_calls {p : Program} {startup : PassReport} (hfailed : l.failed = none)
    (hup : l.registry.runStartup.answer = .value startup) :
    let up := l.registry.runStartup
    (l.launch p).effects.beforeMain.calls = up.effects.calls ∧
      (l.launch p).effects.afterMain.calls = (journalOf (up.state.trail p.ops)).calls ++
        (l.finish startup (p.run up.state)).effects.calls := by
  intro up
  have hinner := l.registry.runStartup_inner
  obtain ⟨j, heffects, hnone⟩ := p.run_effects up.state
  rw [launch_of_value hfailed hup]
  simp only [up, heffects, List.append_assoc, List.cons_append, Journal.beforeMain_append hinner,
    Journal.afterMain_append hinner]
  simp [hnone]

/-- Around an idle main a launch is the startup of its registry and the cleanup of what that
leaves. -/
theorem launch_idle_of_value {startup : PassReport} (hfailed : l.failed = none)
    (hup : l.registry.runStartup.answer = .value startup) :
    let up := l.registry.runStartup
    let down := up.state.runCleanup
    (l.launch .idle).entered = some up.state ∧
      (l.launch .idle).effects.beforeMain.calls = up.effects.calls ∧
      (l.launch .idle).effects.afterMain.calls = down.effects.calls ∧
      (l.launch .idle).result =
        match down.answer with
        | .value cleanup => .value ⟨.completed startup 0 cleanup, l.codes⟩
        | .error e => .error e
        | .panic q => .panic q := by
  intro up down
  have hlaunch := launch_of_value (p := .idle) hfailed hup
  have hreturns : (Program.run .idle up.state).finish = .returns 0 := rfl
  obtain ⟨hbefore, hafter⟩ := launch_calls (p := .idle) hfailed hup
  obtain ⟨hcalls, hanswer⟩ := l.finish_of_returns startup hreturns
  refine ⟨by rw [hlaunch], hbefore, hafter.trans hcalls, ?_⟩
  rw [hlaunch]
  exact hanswer

/-- Up to main, a launch runs what the startup of its registry runs, and answers alike. -/
theorem launch_idle_starts (hfailed : l.failed = none) (hs : l.registry.stage = .collecting) :
    l.StartsAs l.registry.runStartup.answer ∧
      (l.launch .idle).effects.beforeMain.calls = l.registry.runStartup.effects.calls := by
  have hinner := l.registry.runStartup_inner
  rcases Registry.runStartup_answer hs with
    ⟨startup, hup, _⟩ | ⟨f, startup, unwind, hup⟩ | ⟨p, hup⟩
  · obtain ⟨hentered, hbefore, _, hresult⟩ := launch_idle_of_value hfailed hup
    rw [hup]
    refine ⟨⟨hup, hentered, fun report hreport => ?_⟩, hbefore⟩
    rw [hresult] at hreport
    split at hreport
    · exact ⟨_, (Ending.value.inj hreport).symm⟩
    · cases hreport
    · cases hreport
  · obtain ⟨hresult, hentered⟩ := launch_of_aborted (p := .idle) hfailed hup
    rw [hup]
    refine ⟨⟨f, startup, unwind, rfl, hentered, hresult⟩, ?_⟩
    simp [launch, around, hfailed, hup, Journal.beforeMain_append hinner]
  · have hall := Journal.beforeMain_append (j := []) hinner
    simp only [List.append_nil, Journal.beforeMain_nil] at hall
    simp [StartsAs, launch, around, hfailed, hup, hall]

end Loader

/-- What a registry left under the number `n`. -/
def owned (n : Nat) (ts : List Tagged) : Journal := untag (ts.filter (·.number = n))

section
variable {n a : Nat} {ts us : List Tagged} {j : Journal}

theorem owned_append : owned n (ts ++ us) = owned n ts ++ owned n us := by
  simp [owned, untag]

theorem owned_tag : owned n (tag n j) = j := by
  have hall : (tag n j).filter (·.number = n) = tag n j :=
    List.filter_eq_self.mpr (forall_mem_tag.mpr fun _ _ => by simp)
  rw [owned, hall, untag_tag]

theorem owned_of_others (h : ∀ t ∈ ts, t.number ≠ n) : owned n ts = [] := by
  have hnone : ts.filter (·.number = n) = [] :=
    List.filter_eq_nil_iff.mpr fun t ht => by simpa using h t ht
  rw [owned, hnone]
  rfl

end

namespace Host
variable {h : Host} {p : Plugin}

theorem cleanups_numbered {ps : List Plugin} {q : Nat → Prop} (hq : ∀ p ∈ ps, q p.number) :
    ∀ t ∈ cleanups ps, q t.number := by
  intro t ht
  obtain ⟨a, ha, hin⟩ := List.mem_flatMap.mp ht
  exact forall_mem_tag (p := fun t => q t.number).mpr (fun _ _ => hq a ha) t hin

/-- Each cleanup leaves its own, whatever the others leave. -/
theorem owned_cleanups {ps : List Plugin} (hapart : ps.Pairwise fun a b => b.number < a.number)
    (hp : p ∈ ps) : owned p.number (cleanups ps) = p.registry.runCleanup.effects := by
  induction ps with
  | nil => cases hp
  | cons a ps ih =>
    obtain ⟨hnewest, hrest⟩ := List.pairwise_cons.mp hapart
    have hsplit : cleanups (a :: ps) = tag a.number a.registry.runCleanup.effects ++ cleanups ps :=
      rfl
    rw [hsplit, owned_append]
    rcases List.mem_cons.mp hp with rfl | hp
    · have hothers : owned p.number (cleanups ps) = [] :=
        owned_of_others (cleanups_numbered (q := (· ≠ p.number)) fun b hb =>
          Nat.ne_of_lt (hnewest b hb))
      rw [owned_tag, hothers, List.append_nil]
    · have hother : owned p.number (tag a.number a.registry.runCleanup.effects) = [] :=
        owned_of_others (forall_mem_tag.mpr fun _ _ => Nat.ne_of_gt (hnewest p hp))
      rw [hother, ih hrest hp, List.nil_append]

/-- A plugin that is there after some calls was there before, or its number is new. -/
theorem Kept.loaded_of_run (kept : h.Kept) (ops : List HostOp) (hp : p ∈ (h.run ops).loaded) :
    p ∈ h.loaded ∨ h.count < p.number := by
  induction ops generalizing h with
  | nil => exact Or.inl hp
  | cons op ops ih =>
    have hlater := ih (kept.perform op) hp
    cases op with
    | load m =>
      have hcount : (h.load m).host.count = h.count + 1 := (h.load_frame m).2.1
      change p ∈ (h.load m).host.loaded ∨ (h.load m).host.count < p.number at hlater
      rcases hlater with hp | hnew
      · rcases h.load_loaded m with ⟨hsame, _⟩ | ⟨_, _, _, _, hadded⟩
        · exact Or.inl (hsame ▸ hp)
        · rcases List.mem_cons.mp (hadded ▸ hp) with rfl | hp
          · exact Or.inr (Nat.lt_succ_self _)
          · exact Or.inl hp
      · exact Or.inr (by lia)
    | shutdown =>
      obtain ⟨touched, hsplit, _⟩ := kept.shutdown_split
      rcases hlater with hp | hnew
      · exact Or.inl (hsplit ▸ List.mem_append_right _ hp)
      · exact Or.inr hnew

/-- What stands under the number of a load, at any time after it, is the plugin as it started. -/
theorem Kept.loaded_as_started (kept : h.Kept) (m : Module) (more : List HostOp)
    (hp : p ∈ ((h.load m).host.run more).loaded) (hn : p.number = h.count + 1) :
    (∃ report, (m.filled h.rules).runStartup.answer = .value report) ∧
      (m.enrol (.new h.rules)).answer.result = .ok () ∧
      p = ⟨m.name, h.count + 1, (m.filled h.rules).runStartup.state⟩ := by
  have hcount : (h.load m).host.count = h.count + 1 := (h.load_frame m).2.1
  have hold : p ∉ h.loaded := by
    intro hin
    have := kept.numbered p hin
    lia
  rcases (kept.load m).loaded_of_run more hp with hin | hnew
  · rcases h.load_loaded m with ⟨hsame, _⟩ | ⟨report, ha, hok, _, hadded⟩
    · exact absurd (hsame ▸ hin) hold
    · rcases List.mem_cons.mp (hadded ▸ hin) with hself | hin
      · exact ⟨⟨report, ha⟩, hok, hself⟩
      · exact absurd hin hold
  · lia

/-- A shutdown that takes a plugin off cleans it up as if it were the only one. -/
theorem Kept.shutdown_owned (kept : h.Kept) (hp : p ∈ h.loaded)
    (hoff : p ∉ h.shutdown.host.loaded) :
    owned p.number h.shutdown.effects = p.registry.runCleanup.effects := by
  obtain ⟨touched, hsplit, heffects⟩ := kept.shutdown_split
  have htouched : p ∈ touched := (List.mem_append.mp (hsplit ▸ hp)).resolve_right hoff
  rw [heffects]
  exact owned_cleanups (kept.apart_of_split hsplit).1 htouched

/-- A shutdown that gets through reports of each plugin, in the plugin's place. -/
theorem Kept.shutdown_reports (kept : h.Kept) {cs : List PluginCleanup}
    (ha : h.shutdown.answer = .ok cs) (hp : p ∈ h.loaded) :
    ∃ (i : Nat) (cleanup : PassReport), h.loaded[i]? = some p ∧ cs[i]? = some ⟨p.name, cleanup⟩ ∧
      p.registry.runCleanup.answer = .value cleanup := by
  obtain ⟨hreports, _⟩ := kept.shutdown_through ha
  obtain ⟨i, hi⟩ := List.getElem?_of_mem hp
  have hplace := congrArg (·[i]?) hreports
  simp only [List.getElem?_map, hi, Option.map_some, Option.map_eq_some_iff,
    Prod.mk.injEq] at hplace
  obtain ⟨⟨_, cleanup⟩, hc, rfl, hanswer⟩ := hplace
  exact ⟨i, cleanup, hi, hc, hanswer.symm⟩

/-- A plugin that was taken off by a shutdown which a panic left is above the plugin that
panicked, or is that plugin. -/
theorem Kept.shutdown_panicked (kept : h.Kept) {q : Payload} (ha : h.shutdown.answer = .error q)
    (hp : p ∈ h.loaded) (hoff : p ∉ h.shutdown.host.loaded) :
    (∃ report, p.registry.runCleanup.answer = .value report) ∧
        (∃ a ∈ h.loaded, a.number < p.number ∧ a.registry.runCleanup.answer = .panic q) ∨
      p.registry.runCleanup.answer = .panic q ∧ ∀ t ∈ h.shutdown.effects, p.number ≤ t.number := by
  obtain ⟨above, a, below, hsplit, hthrough, hpanic, heffects, hleft⟩ := kept.shutdown_left ha
  have hover := (kept.apart_of_split hsplit).2.2
  rw [hsplit] at hp
  rcases List.mem_append.mp hp with hp | hp
  · exact Or.inl ⟨hthrough p hp, a, by simp [hsplit], hover p hp a List.mem_cons_self, hpanic⟩
  · rcases List.mem_cons.mp hp with rfl | hp
    · refine Or.inr ⟨hpanic, heffects ▸ cleanups_numbered (q := (p.number ≤ ·)) ?_⟩
      refine List.forall_mem_append.mpr ⟨fun c hc => ?_, by simp⟩
      exact Nat.le_of_lt (hover c hc p List.mem_cons_self)
    · exact absurd (hleft ▸ hp) hoff

/-- A shutdown of `h` ends for plugin `n` as a launch ends that got to `result`. If an older
plugin lets a panic out, the reports of all are lost. -/
def StopsAs (h : Host) (n : Nat) (name : String) (result : Ending LaunchReport) : Prop :=
  match result with
  | .value report =>
    ∃ startup cleanup, report.outcome = .completed startup 0 cleanup ∧
      (∀ cs, h.shutdown.answer = .ok cs → ∃ (i : Nat) (p : Plugin),
        h.loaded[i]? = some p ∧ p.number = n ∧ cs[i]? = some ⟨name, cleanup⟩) ∧
      ∀ q, h.shutdown.answer = .error q → ∃ p ∈ h.loaded, p.number < n ∧
        p.registry.runCleanup.answer = .panic q
  | .error _ => False
  | .panic q => h.shutdown.answer = .error q ∧ ∀ t ∈ h.shutdown.effects, n ≤ t.number

/-- A plugin that a shutdown takes off ends as its registry does by itself. -/
theorem Kept.stopsAs (kept : h.Kept) (hp : p ∈ h.loaded) (hoff : p ∉ h.shutdown.host.loaded)
    (startup : PassReport) (codes : ExitCodes) :
    h.StopsAs p.number p.name
      (match p.registry.runCleanup.answer with
        | .value cleanup => .value ⟨.completed startup 0 cleanup, codes⟩
        | .error e => .error e
        | .panic q => .panic q) := by
  rcases Registry.runCleanup_answer (kept.ready p hp) with ⟨cleanup, hanswer⟩ | ⟨q, hanswer⟩
  · rw [hanswer]
    refine ⟨startup, cleanup, rfl, fun cs ha => ?_, fun q ha => ?_⟩
    · obtain ⟨i, report, hi, hc, hreport⟩ := kept.shutdown_reports ha hp
      cases hanswer.symm.trans hreport
      exact ⟨i, p, hi, rfl, hc⟩
    · rcases kept.shutdown_panicked ha hp hoff with ⟨_, hbelow⟩ | ⟨hpanic, _⟩
      · exact hbelow
      · cases hanswer.symm.trans hpanic
  · rw [hanswer]
    cases ha : h.shutdown.answer with
    | ok cs =>
      -- every plugin is reported of, and this one has no report
      obtain ⟨_, _, _, _, hreport⟩ := kept.shutdown_reports ha hp
      cases hanswer.symm.trans hreport
    | error payload =>
      rcases kept.shutdown_panicked ha hp hoff with ⟨⟨_, hvalue⟩, _⟩ | ⟨hpanic, hnumbers⟩
      · cases hanswer.symm.trans hvalue
      · cases hanswer.symm.trans hpanic
        exact ⟨ha, hnumbers⟩

/-- A plugin behaves as if alone: its load is the startup of a launch around an idle main, with
the same calls and the same answer, and when a shutdown takes it off, that is the cleanup of the
launch, whatever the host does before, between and besides. -/
theorem load_alone (s : Settings) (ops : List HostOp) (m : Module) :
    let h := (new s.registry).run ops
    let n := h.count + 1
    let t := h.load m
    let alone := (Loader.new s).load m
    let launch := alone.state.launch .idle
    t.answer.enrolled = alone.answer ∧
      (match alone.answer.result with
        | .error e =>
          t.answer.result = .error e ∧ (untag t.effects).calls = [] ∧ alone.effects.calls = []
        | .ok _ =>
          alone.state.StartsAs t.answer.result ∧ alone.effects.calls = [] ∧
            (untag t.effects).calls = launch.effects.beforeMain.calls) ∧
      ∀ more, let g := t.host.run more
        n ∈ g.loaded.map Plugin.number → n ∉ g.shutdown.host.loaded.map Plugin.number →
          (owned n g.shutdown.effects).calls = launch.effects.afterMain.calls ∧
            g.StopsAs n m.name launch.result := by
  intro h n t alone launch
  have kept : h.Kept := (kept_new s.registry).run ops
  have hrules : h.rules = s.registry := run_rules _ ops
  obtain ⟨hanswer, hregistry, hcalls⟩ := Loader.load_new s m
  have henrolled : t.answer.enrolled = alone.answer := by
    rw [(h.load_frame m).1, hrules]
    exact hanswer.symm
  refine ⟨henrolled, ?_, ?_⟩
  · cases hresult : alone.answer.result with
    | error e =>
      have hrefused : (m.enrol (.new h.rules)).answer.result = .error e := by
        rw [hrules, ← hanswer]
        exact hresult
      obtain ⟨herror, hnone, _⟩ := load_of_refused hrefused
      exact ⟨herror, hnone, hcalls⟩
    | ok u =>
      have hok : (m.enrol (.new h.rules)).answer.result = .ok () := by
        rw [hrules, ← hanswer]
        exact hresult
      obtain ⟨hup, hran, _⟩ := load_of_enrolled hok
      have hfailed := Loader.load_new_failed s (hrules ▸ hok)
      have hstage : alone.state.registry.stage = .collecting := by
        rw [hregistry]
        exact (m.filled_sound _).2.1
      obtain ⟨hstarts, hbefore⟩ := Loader.launch_idle_starts hfailed hstage
      rw [hregistry, ← hrules] at hstarts hbefore
      exact ⟨hup ▸ hstarts, hcalls, hran.trans hbefore.symm⟩
  · intro more g hin hout
    obtain ⟨p, hp, hn⟩ := List.mem_map.mp hin
    have hoff : p ∉ g.shutdown.host.loaded := fun hp => hout (hn ▸ List.mem_map_of_mem hp)
    have kept' : g.Kept := (kept.load m).run more
    -- nothing since its load has touched the plugin, so the launch cleans up the same registry
    obtain ⟨⟨startup, hup⟩, hok, hself⟩ := kept.loaded_as_started m more hp hn
    have hfailed := Loader.load_new_failed s (hrules ▸ hok)
    rw [hrules, ← hregistry] at hup hself
    obtain ⟨_, _, hafter, hresult⟩ := Loader.launch_idle_of_value hfailed hup
    have howned := kept'.shutdown_owned hp hoff
    have hstops := kept'.stopsAs hp hoff startup alone.state.codes
    rw [hn] at howned
    rw [hn, hself] at hstops
    rw [howned, hself]
    exact ⟨hafter.symm, hresult ▸ hstops⟩

/-- A plugin with one startup and one cleanup hook. -/
def pairOf (name : String) (startup cleanup : Outcome) : Module :=
  ⟨name, [⟨.onStartup "open" ⟨none, [], startup⟩, false⟩,
    ⟨.onCleanup "close" ⟨none, [], cleanup⟩, false⟩]⟩

/-- Settings under which panics get out. -/
def uncaught : Settings := { registry := ⟨false, true⟩ }

def tornModule : Module := pairOf "index" .ok (.panic (.text "torn"))

/-- A host on which the torn plugin is the third of four, one of which did not start. -/
def tornHost : Host :=
  ((new uncaught.registry).run
    [.load (pairOf "cache" .ok .ok), .load (pairOf "broken" (.error "no") .ok)]
    |>.load tornModule).host.run [.load (pairOf "late" .ok (.error "stuck"))]

def tornLaunch : Launch := ((Loader.new uncaught).load tornModule).state.launch .idle

theorem load_alone_torn :
    3 ∈ tornHost.loaded.map Plugin.number ∧ 3 ∉ tornHost.shutdown.host.loaded.map Plugin.number ∧
      tornLaunch.result = .panic (.text "torn") ∧
      tornHost.shutdown.answer = .error (.text "torn") ∧
      (owned 3 tornHost.shutdown.effects).calls = tornLaunch.effects.afterMain.calls ∧
      tornLaunch.effects.afterMain.calls.map Prod.fst = [2] := by
  have hin : 3 ∈ tornHost.loaded.map Plugin.number := by decide
  have hout : 3 ∉ tornHost.shutdown.host.loaded.map Plugin.number := by decide
  have hresult : tornLaunch.result = .panic (.text "torn") := by decide
  obtain ⟨hcalls, hstops⟩ := (load_alone uncaught _ tornModule).2.2 _ hin hout
  rw [← tornLaunch, hresult] at hstops
  exact ⟨hin, hout, hresult, hstops.1, hcalls, by decide⟩

end Host
end Bookend

import Bookend.Proofs.CleanupOrder
import Bookend.Proofs.Hosting

namespace Bookend

/-- The hooks that were run, each with the number of its registry. -/
def ran (ts : List Tagged) : List (Nat × Handle) :=
  ts.filterMap fun t =>
    match t.effect with
    | .call k _ => some (t.number, k)
    | _ => none

section
variable {n : Nat} {ts us : List Tagged}

@[simp] theorem ran_append : ran (ts ++ us) = ran ts ++ ran us :=
  List.filterMap_append

theorem ran_of_numbered (hn : ∀ t ∈ ts, t.number = n) :
    ran ts = ((untag ts).calls.map Prod.fst).map (Prod.mk n) := by
  induction ts with
  | nil => rfl
  | cons t ts ih =>
    obtain ⟨ht, hts⟩ := List.forall_mem_cons.mp hn
    have htail := ih hts
    obtain ⟨number, effect⟩ := t
    obtain rfl : number = n := ht
    cases effect with
    | call k c =>
      have hhead : ran (⟨number, .call k c⟩ :: ts) = (number, k) :: ran ts := rfl
      rw [hhead, htail]
      rfl
    | event e => exact htail
    | tally m p => exact htail
    | main l rs => exact htail

theorem ran_tag (n : Nat) (j : Journal) :
    ran (tag n j) = (j.calls.map Prod.fst).map (Prod.mk n) := by
  rw [ran_of_numbered (forall_mem_tag.mpr fun _ _ => rfl), untag_tag]

end

namespace Host
variable {h : Host} {ts : List Tagged}

/-- All that a list of calls leaves. -/
def journal (h : Host) (ops : List HostOp) : List Tagged := (h.trail ops).flatMap HostTurn.effects

theorem ran_cleanups_cons (p : Plugin) (ps : List Plugin) :
    ran (cleanups (p :: ps)) =
      (p.registry.runCleanup.effects.calls.map Prod.fst).map (Prod.mk p.number) ++
        ran (cleanups ps) := by
  simp only [cleanups, List.flatMap_cons, ran_append, ran_tag]

theorem mem_ran_cleanups {ps : List Plugin} {e : Nat × Handle} :
    e ∈ ran (cleanups ps) ↔ ∃ p ∈ ps, p.number = e.1 ∧
      e.2 ∈ p.registry.runCleanup.effects.calls.map Prod.fst := by
  induction ps with
  | nil => simp [cleanups, ran]
  | cons p ps ih =>
    rw [ran_cleanups_cons, List.mem_append, ih, List.exists_mem_cons_iff]
    refine or_congr_left ?_
    constructor
    · intro he
      obtain ⟨k, hk, rfl⟩ := List.mem_map.mp he
      exact ⟨rfl, hk⟩
    · rintro ⟨hn, hk⟩
      exact List.mem_map.mpr ⟨e.2, hk, by rw [hn]⟩

/-- Cleanups of different registries run no hook twice between them. -/
theorem cleanups_once {ps : List Plugin} (hsound : ∀ p ∈ ps, p.registry.Sound)
    (hapart : ps.Pairwise fun a b => b.number < a.number) : (ran (cleanups ps)).Nodup := by
  induction ps with
  | nil => exact List.nodup_nil
  | cons p ps ih =>
    obtain ⟨hp, hps⟩ := List.forall_mem_cons.mp hsound
    obtain ⟨hnewer, hrest⟩ := List.pairwise_cons.mp hapart
    rw [ran_cleanups_cons]
    refine ((hp.perform_once .runCleanup).map (Prod.mk_right_injective _)).append (ih hps hrest) ?_
    intro e he hbelow
    obtain ⟨k, _, rfl⟩ := List.mem_map.mp he
    obtain ⟨q, hq, hnumber, _⟩ := mem_ran_cleanups.mp hbelow
    have := hnewer q hq
    lia

/-- The host `h` and all that was left on the way to it: no hook ran twice, and none that a
plugin still holds pending has run. -/
structure Ledger (h : Host) (ts : List Tagged) : Prop extends h.Kept where
  known : ∀ e ∈ ran ts, e.1 ≤ h.count
  unrun : ∀ p ∈ h.loaded, ∀ k ∈ p.registry.hooks, k.status = .pending →
    (p.number, k.handle) ∉ ran ts
  once : (ran ts).Nodup

theorem ledger_new (rules : HookRules) : (new rules).Ledger [] where
  toKept := kept_new rules
  known := by simp [ran]
  unrun := by simp [ran]
  once := List.nodup_nil

/-- A ledger goes on with what is new in every respect. -/
theorem Ledger.extend {g : Host} {us : List Tagged} (ledger : h.Ledger ts) (kept : g.Kept)
    (hcount : h.count ≤ g.count) (known : ∀ e ∈ ran us, e.1 ≤ g.count) (once : (ran us).Nodup)
    (fresh : (ran ts).Disjoint (ran us))
    (unrun : ∀ p ∈ g.loaded, ∀ k ∈ p.registry.hooks, k.status = .pending →
      (p.number, k.handle) ∉ ran ts ∧ (p.number, k.handle) ∉ ran us) :
    g.Ledger (ts ++ us) where
  toKept := kept
  known := by
    rw [ran_append]
    exact List.forall_mem_append.mpr
      ⟨fun e he => Nat.le_trans (ledger.known e he) hcount, known⟩
  unrun := by
    intro p hp k hk hs hm
    obtain ⟨hold, hnew⟩ := unrun p hp k hk hs
    exact (List.mem_append.mp (ran_append ▸ hm)).elim hold hnew
  once := by
    rw [ran_append]
    exact ledger.once.append once fresh

/-- A load runs hooks of the registry that it makes, and each once. -/
theorem load_ran (h : Host) (m : Module) :
    (∀ e ∈ ran (h.load m).effects, e.1 = h.count + 1) ∧ (ran (h.load m).effects).Nodup ∧
      ∀ k ∈ (m.filled h.rules).runStartup.state.hooks, k.status = .pending →
        (h.count + 1, k.handle) ∉ ran (h.load m).effects := by
  obtain ⟨hsound, _, _⟩ := m.filled_sound h.rules
  have hcalls : (untag (h.load m).effects).calls = [] ∨
      (untag (h.load m).effects).calls = (m.filled h.rules).runStartup.effects.calls := by
    cases hok : (m.enrol (.new h.rules)).answer.result with
    | error e => exact Or.inl (load_of_refused hok).2.1
    | ok u => exact Or.inr (load_of_enrolled hok).2.1
  rw [ran_of_numbered (h.load_frame m).2.2.2]
  refine ⟨List.forall_mem_map.mpr fun _ _ => rfl, ?_⟩
  rcases hcalls with hcalls | hcalls <;> rw [hcalls]
  · exact ⟨List.nodup_nil, by simp⟩
  · refine ⟨(hsound.perform_once .runStartup).map (Prod.mk_right_injective _), ?_⟩
    intro k hk hp hm
    obtain ⟨a, ha, he⟩ := List.mem_map.mp hm
    cases he
    exact hsound.perform_unrun .runStartup hk hp ha

theorem Ledger.load (ledger : h.Ledger ts) (m : Module) :
    (h.load m).host.Ledger (ts ++ (h.load m).effects) := by
  obtain ⟨_, hcount, _, _⟩ := h.load_frame m
  obtain ⟨hnumber, honce, hpending⟩ := h.load_ran m
  -- a number that the host has given out before is not the one it gives out now
  have hnew {n : Nat} (hn : n ≤ h.count) (k : Handle) : (n, k) ∉ ran (h.load m).effects := by
    intro hm
    have := hnumber _ hm
    lia
  have hold : ∀ p ∈ h.loaded, ∀ k ∈ p.registry.hooks, k.status = .pending →
      (p.number, k.handle) ∉ ran ts ∧ (p.number, k.handle) ∉ ran (h.load m).effects :=
    fun p hp k hk hs => ⟨ledger.unrun p hp k hk hs, hnew (ledger.numbered p hp) _⟩
  refine ledger.extend (ledger.toKept.load m) (by lia) ?_ honce ?_ ?_
  · exact fun e he => Nat.le_of_eq ((hnumber e he).trans hcount.symm)
  · exact fun e he => hnew (ledger.known e he) e.2
  · rcases h.load_loaded m with ⟨hsame, _⟩ | ⟨report, _, _, _, hadded⟩
    · rw [hsame]
      exact hold
    · rw [hadded]
      refine List.forall_mem_cons.mpr ⟨fun k hk hs => ⟨fun hm => ?_, hpending k hk hs⟩, hold⟩
      have := ledger.known _ hm
      lia

theorem Ledger.shutdown (ledger : h.Ledger ts) :
    h.shutdown.host.Ledger (ts ++ h.shutdown.effects) := by
  obtain ⟨touched, hsplit, heffects⟩ := ledger.shutdown_split
  have htouched : ∀ p ∈ touched, p ∈ h.loaded := fun p hp =>
    hsplit ▸ List.mem_append_left _ hp
  obtain ⟨hapart, _, hnewer⟩ := ledger.apart_of_split hsplit
  have honce := cleanups_once (fun p hp => ledger.sound p (htouched p hp)) hapart
  rw [heffects]
  refine ledger.extend ledger.toKept.shutdown (Nat.le_refl _) ?_ honce ?_ ?_
  · intro e he
    obtain ⟨p, hp, hnumber, _⟩ := mem_ran_cleanups.mp he
    exact hnumber ▸ ledger.numbered p (htouched p hp)
  · intro e he hm
    obtain ⟨p, hp, hnumber, hrun⟩ := mem_ran_cleanups.mp hm
    obtain ⟨k, hk, hhandle, hpending⟩ :=
      (ledger.sound p (htouched p hp)).perform_pending .runCleanup hrun
    refine ledger.unrun p (htouched p hp) k hk hpending ?_
    rw [hnumber, hhandle]
    exact he
  · intro q hq k hk hs
    refine ⟨ledger.unrun q (hsplit ▸ List.mem_append_right _ hq) k hk hs, fun hm => ?_⟩
    obtain ⟨p, hp, hnumber, _⟩ := mem_ran_cleanups.mp hm
    have := hnewer p hp q hq
    lia

theorem Ledger.perform (ledger : h.Ledger ts) (op : HostOp) :
    (h.perform op).host.Ledger (ts ++ (h.perform op).effects) := by
  cases op with
  | load m => exact ledger.load m
  | shutdown => exact ledger.shutdown

theorem Ledger.run (ledger : h.Ledger ts) (ops : List HostOp) :
    (h.run ops).Ledger (ts ++ h.journal ops) := by
  induction ops generalizing h ts with
  | nil => simpa [journal, Host.trail, Host.run] using ledger
  | cons op ops ih =>
    have hall : h.journal (op :: ops) = (h.perform op).effects ++ (h.perform op).host.journal ops :=
      rfl
    rw [hall, ← List.append_assoc]
    exact ih (ledger.perform op)

theorem ledger_run (rules : HookRules) (ops : List HostOp) :
    ((new rules).run ops).Ledger ((new rules).journal ops) :=
  (ledger_new rules).run ops

theorem load_names (h : Host) (m : Module) :
    (h.load m).host.names =
      match (h.load m).answer.result with
      | .value _ => h.names ++ [m.name]
      | _ => h.names := by
  rcases h.load_loaded m with ⟨hsame, hnone⟩ | ⟨report, _, _, hresult, hadded⟩
  · rw [names, hsame]
    split
    · exact absurd ‹_› (hnone _)
    · rfl
  · rw [names, hadded, hresult]
    simp [names]

/-- No shutdown has to pass over a plugin. -/
theorem Kept.shutdown_inner (kept : h.Kept) :
    ∀ t ∈ h.shutdown.effects, t.effect.isInner = true := by
  obtain ⟨touched, _, heffects⟩ := kept.shutdown_split
  rw [heffects]
  intro t ht
  obtain ⟨p, _, hp⟩ := List.mem_flatMap.mp ht
  have hinner := List.all_eq_true.mp p.registry.runCleanup_inner
  exact forall_mem_tag (p := fun t => t.effect.isInner = true).mpr hinner t hp

theorem shutdown_empty (hempty : h.loaded = []) :
    h.shutdown.answer = .ok [] ∧ h.shutdown.effects = [] := by
  simp only [Host.shutdown, hempty, unload]
  exact ⟨trivial, trivial⟩

/-- Only plugins that stand ready are kept, a shutdown takes them off from the newest on, as far
as it comes, and no hook ever runs twice. -/
theorem run_retention (rules : HookRules) (ops : List HostOp) :
    let h := (new rules).run ops
    let down := h.shutdown
    (∀ p ∈ h.loaded, p.registry.stage = .ready) ∧
      (∀ m, (h.load m).host.names =
        match (h.load m).answer.result with
        | .value _ => h.names ++ [m.name]
        | _ => h.names) ∧
      (∀ t ∈ down.effects, ∀ name e, t.effect ≠ .event (.pluginCleanupSkipped name e)) ∧
      (∀ cs, down.answer = .ok cs →
        cs.map PluginCleanup.plugin = h.names.reverse ∧
        cs.map (fun c => Ending.value c.report) = h.loaded.map (·.registry.runCleanup.answer) ∧
        down.host.names = [] ∧ down.host.shutdown.answer = .ok [] ∧
        down.host.shutdown.effects = []) ∧
      (∀ payload, down.answer = .error payload → ∃ above p below,
        h.loaded = above ++ p :: below ∧ h.names[below.length]? = some p.name ∧
        p.registry.runCleanup.answer = .panic payload ∧
        (∀ q ∈ above, ∃ report, q.registry.runCleanup.answer = .value report ∧
          report.invoked = q.registry.fullOrder.map Hook.handle ∧
          q.registry.runCleanup.effects.calls.map Prod.fst = report.invoked) ∧
        down.effects = cleanups (above ++ [p]) ∧
        down.host.loaded = below ∧ down.host.names = h.names.take below.length ∧
        ∀ q ∈ below, ∀ k ∈ q.registry.cleanup ++ q.registry.atExit, k.status = .pending ∧
          (q.number, k.handle) ∉ ran ((new rules).journal ops ++ down.effects)) ∧
      (ran ((new rules).journal ops)).Nodup := by
  intro h down
  have ledger : h.Ledger ((new rules).journal ops) := ledger_run rules ops
  have kept := ledger.toKept
  refine ⟨kept.ready, h.load_names, ?_, ?_, ?_, ledger.once⟩
  · intro t ht name e he
    have hinner := kept.shutdown_inner t ht
    rw [he] at hinner
    cases hinner
  · intro cs ha
    obtain ⟨hcs, hempty⟩ := kept.shutdown_through ha
    have hnames : cs.map PluginCleanup.plugin = h.loaded.map Plugin.name := by
      simpa [Function.comp_def] using congrArg (List.map Prod.fst) hcs
    have hreports : cs.map (fun c => Ending.value c.report) =
        h.loaded.map (·.registry.runCleanup.answer) := by
      simpa [Function.comp_def] using congrArg (List.map Prod.snd) hcs
    refine ⟨?_, hreports, ?_, shutdown_empty hempty⟩
    · rw [hnames, names, List.reverse_reverse]
    · rw [names, hempty]
      rfl
  · intro payload ha
    obtain ⟨above, p, below, hsplit, habove, hp, heffects, hleft⟩ := kept.shutdown_left ha
    have hwhole : ∀ q ∈ above, ∃ report, q.registry.runCleanup.answer = .value report ∧
        report.invoked = q.registry.fullOrder.map Hook.handle ∧
        q.registry.runCleanup.effects.calls.map Prod.fst = report.invoked := by
      intro q hq
      have hloaded : q ∈ h.loaded := hsplit ▸ List.mem_append_left _ hq
      obtain ⟨report, hreport⟩ := habove q hq
      exact ⟨report, hreport,
        (kept.sound q hloaded).runCleanup_whole (kept.ready q hloaded) hreport⟩
    have hnames : h.names = down.host.names ++ p.name :: (above.map Plugin.name).reverse := by
      simp [names, down, hsplit, hleft]
    have hlength : down.host.names.length = below.length := by simp [names, down, hleft]
    refine ⟨above, p, below, hsplit, ?_, hp, hwhole, heffects, hleft, ?_, ?_⟩
    · simp [hnames, ← hlength]
    · rw [hnames, ← hlength, List.take_left]
    · intro q hq k hk
      rw [← hleft] at hq
      have hpending := ((kept.shutdown.sound q hq).situation.of_ready
        (kept.shutdown.ready q hq)).2 k hk
      exact ⟨hpending, ledger.shutdown.unrun q hq k (Registry.mem_hooks_of_mem hk) hpending⟩

/-- Two plugins of one name around one whose cleanup panics, and one that does not start. -/
def unluckyOps : List HostOp :=
  let plugin (name : String) (startup cleanup : Outcome) : HostOp :=
    .load ⟨name, [⟨.onStartup "open" ⟨none, [], startup⟩, false⟩,
      ⟨.onCleanup "close" ⟨none, [], cleanup⟩, false⟩]⟩
  [plugin "cache" .ok .ok, plugin "index" .ok (.panic (.text "torn")),
    plugin "broken" (.error "no") .ok, plugin "cache" .ok (.error "stuck")]

theorem run_retention_unlucky :
    let h := (new ⟨false, true⟩).run unluckyOps
    h.names = ["cache", "index", "cache"] ∧ h.shutdown.answer = .error (.text "torn") ∧
      h.shutdown.host.names = ["cache"] ∧ (ran h.shutdown.effects) = [(4, 2), (2, 2)] := by
  intro h
  have ha : h.shutdown.answer = .error (.text "torn") := by decide
  obtain ⟨_, _, _, _, hleft, _⟩ := run_retention ⟨false, true⟩ unluckyOps
  obtain ⟨above, p, below, hsplit, _, _, _, _, hloaded, hnames, _⟩ := hleft _ ha
  have hlength : below.length = 1 := by
    rw [← hloaded]
    decide
  refine ⟨by decide, ha, ?_, by decide⟩
  rw [hnames, hlength]
  decide

end Host
end Bookend

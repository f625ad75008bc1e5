import Bookend.Proofs.Stranded

namespace Bookend

/-- The same rules but for the panics. -/
def HookRules.catching (rules : HookRules) (b : Bool) : HookRules := { rules with catchPanics := b }

/-- The same registry under rules that catch panics or do not. -/
def Registry.catching (r : Registry) (b : Bool) : Registry :=
  { r with rules := r.rules.catching b }

def Turn.catching (b : Bool) (t : Turn Registry α) : Turn Registry α :=
  { t with state := t.state.catching b }

/-- None of these calls ended in a panic. -/
def Quiet (cs : List (Handle × Callback)) : Prop := ∀ e ∈ cs, ∀ p, e.2.outcome ≠ .panic p

/-- The calls `cs` end with the first that panics; `ds` begins in the same way and may go on. -/
def CutShort (p : Payload) (cs ds : List (Handle × Callback)) : Prop :=
  ∃ ran h c more, cs = ran ++ [(h, c)] ∧ ds = ran ++ (h, c) :: more ∧ Quiet ran ∧
    c.outcome = .panic p

section
variable {cs ds es : List (Handle × Callback)} {p : Payload}

theorem quiet_append : Quiet (cs ++ ds) ↔ Quiet cs ∧ Quiet ds := List.forall_mem_append

theorem CutShort.after (h : CutShort p cs ds) (hquiet : Quiet es) :
    CutShort p (es ++ cs) (es ++ ds) := by
  obtain ⟨ran, x, c, more, rfl, rfl, hran, hc⟩ := h
  exact ⟨es ++ ran, x, c, more, by simp, by simp, quiet_append.mpr ⟨hquiet, hran⟩, hc⟩

theorem CutShort.longer (h : CutShort p cs ds) (es : List (Handle × Callback)) :
    CutShort p cs (ds ++ es) := by
  obtain ⟨ran, x, c, more, rfl, rfl, hran, hc⟩ := h
  exact ⟨ran, x, c, more ++ es, rfl, by simp, hran, hc⟩

/-- The call that panics is the last one, and all before it are the same. -/
theorem CutShort.at_panic {h : Handle} {c : Callback} {q : Payload} (hcut : CutShort p cs ds)
    (hm : (h, c) ∈ cs) (hc : c.outcome = .panic q) :
    q = p ∧ ∃ ran more, cs = ran ++ [(h, c)] ∧ ds = ran ++ (h, c) :: more ∧ Quiet ran := by
  obtain ⟨ran, x, d, more, rfl, rfl, hran, hd⟩ := hcut
  rcases List.mem_append.mp hm with hm | hm
  · exact absurd hc (hran _ hm q)
  · obtain ⟨rfl, rfl⟩ : h = x ∧ c = d := by simpa using hm
    rw [hd, Outcome.panic.injEq] at hc
    exact ⟨hc.symm, ran, more, rfl, rfl, hran⟩

theorem CutShort.not_quiet (h : CutShort p cs ds) : ¬Quiet cs ∧ ¬Quiet ds := by
  obtain ⟨ran, x, c, more, rfl, rfl, _, hc⟩ := h
  exact ⟨fun hq => hq (x, c) (by simp) p hc, fun hq => hq (x, c) (by simp) p hc⟩

end

theorem Outcome.status_of_quiet {o : Outcome} (h : ∀ p, o ≠ .panic p) (b : Bool) :
    (o.status b).Over ∧ o.status b = o.status false := by
  cases o with
  | ok => cases b <;> exact ⟨Or.inl rfl, rfl⟩
  | error m => cases b <;> exact ⟨Or.inr rfl, rfl⟩
  | panic p => exact absurd rfl (h p)

namespace Hook

/-- An attempt at a hook goes the same way under both rules unless the callback panics. -/
theorem invoke_catching (k : Hook) :
    (k.invoke true = k.invoke false ∧ Quiet (k.invoke false).effects.calls ∧
        ∀ p, (k.invoke false).verdict ≠ .panicked p) ∨
      ∃ c p, c.outcome = .panic p ∧ (k.invoke false).verdict = .panicked p ∧
        (k.invoke true).verdict = .failed (.ofHook k ("panicked: " ++ p.describe)) ∧
        ∀ b, (k.invoke b).effects.calls = [(k.handle, c)] := by
  cases hc : k.callback with
  | none => exact Or.inl (by simp [invoke, hc, Quiet])
  | some c =>
    cases ho : c.outcome with
    | ok => exact Or.inl (by simp [invoke, hc, ho, Outcome.under, Outcome.caught, opening, Quiet])
    | error m =>
      exact Or.inl (by simp [invoke, hc, ho, Outcome.under, Outcome.caught, opening, Quiet])
    | panic p =>
      refine Or.inr ⟨c, p, ho, ?_, ?_, fun b => by simp [invoke_calls, hc]⟩
      · simp [invoke, hc, ho, Outcome.under]
      · simp [invoke, hc, ho, Outcome.under, Outcome.caught]

end Hook

/-- How two passes over the same hooks compare, of which only `q` catches panics. -/
def Pass.Alongside (p q : Pass) : Prop :=
  (q = p ∧ p.panic = none ∧ Quiet p.effects.calls) ∨
    ∃ payload, p.panic = some payload ∧ q.panic = none ∧
      CutShort payload p.effects.calls q.effects.calls

namespace Pass
variable {p q : Pass} {k : Hook}

theorem Alongside.caught (h : p.Alongside q) : q.panic = none := by
  rcases h with ⟨rfl, hnone, _⟩ | ⟨_, _, hnone, _⟩ <;> exact hnone

theorem Alongside.after (h : p.Alongside q) (hsame : k.invoke true = k.invoke false)
    (hquiet : Quiet (k.invoke false).effects.calls) :
    (after (k.invoke false) p).Alongside (after (k.invoke true) q) := by
  rw [hsame]
  rcases h with ⟨rfl, hnone, hq⟩ | ⟨payload, hp, hnone, hcut⟩
  · refine Or.inl ⟨rfl, hnone, ?_⟩
    simp only [Pass.after, Journal.calls_append]
    exact quiet_append.mpr ⟨hquiet, hq⟩
  · refine Or.inr ⟨payload, hp, hnone, ?_⟩
    simp only [Pass.after, Journal.calls_append]
    exact hcut.after hquiet

end Pass

theorem startAll_alongside (ks : List Hook) : (startAll false ks).Alongside (startAll true ks) := by
  induction ks with
  | nil => exact Or.inl ⟨rfl, rfl, by simp [startAll, Pass.skipping, Quiet]⟩
  | cons k ks ih =>
    rcases k.invoke_catching with ⟨hsame, hquiet, hnone⟩ | ⟨c, p, hc, hv, hv', hcalls⟩
    · simp only [startAll]
      cases hv : (k.invoke false).verdict with
      | completed =>
        rw [hsame, hv]
        simpa only [hsame] using ih.after hsame hquiet
      | failed f =>
        rw [hsame, hv]
        refine Or.inl ⟨rfl, rfl, ?_⟩
        simpa [Pass.after, Pass.skipping] using hquiet
      | panicked p => exact absurd hv (hnone p)
    · refine Or.inr ⟨p, ?_, ?_, [], k.handle, c, [], ?_, ?_, by simp [Quiet], hc⟩
      · simp [startAll, hv, Pass.after, Pass.cut]
      · simp [startAll, hv', Pass.after, Pass.skipping]
      · simp [startAll, hv, Pass.after, Pass.cut, hcalls]
      · simp [startAll, hv', Pass.after, Pass.skipping, hcalls]

theorem drainAll_alongside (ks : List Hook) : (drainAll false ks).Alongside (drainAll true ks) := by
  induction ks with
  | nil => exact Or.inl ⟨rfl, rfl, by simp [drainAll, Pass.skipping, Quiet]⟩
  | cons k ks ih =>
    rcases k.invoke_catching with ⟨hsame, hquiet, hnone⟩ | ⟨c, p, hc, hv, hv', hcalls⟩
    · simp only [drainAll]
      cases hv : (k.invoke false).verdict with
      | completed =>
        rw [hsame, hv]
        simpa only [hsame] using ih.after hsame hquiet
      | failed f =>
        rw [hsame, hv]
        simpa only [hsame] using ih.after hsame hquiet
      | panicked p => exact absurd hv (hnone p)
    · have hpanic : (drainAll true (k :: ks)).panic = none := by
        have hcalm : ∀ a ∈ k :: ks, ∀ p, a.verdict true ≠ .panicked p :=
          fun a _ p hp => by cases (Hook.verdict_panicked hp).1
        rw [drainAll_of_calm hcalm]
        rfl
      refine Or.inr ⟨p, ?_, hpanic, [], k.handle, c, (drainAll true ks).effects.calls, ?_, ?_,
        by simp [Quiet], hc⟩
      · simp [drainAll, hv, Pass.after, Pass.cut]
      · simp [drainAll, hv, Pass.after, Pass.cut, hcalls]
      · simp [drainAll, hv', Pass.after, hcalls]

namespace Registry

/-- How a call that lets panics out compares with the same call under rules that catch them. -/
def Alongside (t u : Turn Registry (Ending α)) : Prop :=
  (u = t.catching true ∧ (∀ p, t.answer ≠ .panic p) ∧ Quiet t.effects.calls) ∨
    ∃ p, t.answer = .panic p ∧ CutShort p t.effects.calls u.effects.calls

theorem Alongside.behind {t u : Turn Registry (Ending α)} (h : Alongside t u) {j : Journal}
    (hquiet : Quiet j.calls) (m : Metric) (p : Phase) :
    Alongside { t with effects := j ++ .tally m p :: t.effects }
      { u with effects := j ++ .tally m p :: u.effects } := by
  rcases h with ⟨rfl, hnone, hq⟩ | ⟨p, hp, hcut⟩
  · refine Or.inl ⟨rfl, hnone, ?_⟩
    simpa using quiet_append.mpr ⟨hquiet, hq⟩
  · refine Or.inr ⟨p, hp, ?_⟩
    simpa using hcut.after hquiet

theorem Alongside.map {t u : Turn Registry (Ending α)} (h : Alongside t u) (f : α → β) :
    Alongside (t.map (Ending.map f)) (u.map (Ending.map f)) := by
  rcases h with ⟨rfl, hnone, hq⟩ | ⟨p, hp, hcut⟩
  · exact Or.inl ⟨rfl, fun p hp => hnone p (Ending.map_eq_panic.mp hp), hq⟩
  · exact Or.inr ⟨p, Ending.map_eq_panic.mpr hp, hcut⟩

variable {r : Registry}

/-- Around its pass a sweep calls nothing. -/
theorem drain_calls (r : Registry) (w : Sweep) :
    (r.drain w).effects.calls =
      (drainAll r.rules.catchPanics (r.cleanupPlan w)).effects.calls := by
  have hopening := sweepOpening_calls r w
  unfold sweepOpening at hopening
  simp only [drain]
  split
  · rw [Journal.calls_append, hopening, List.nil_append]
  · rw [Journal.calls_append, Journal.calls_append, hopening]
    exact List.append_nil _

theorem drain_alongside (hrule : r.rules.catchPanics = false) (w : Sweep) :
    ((r.catching true).drain w = (r.drain w).catching true ∧
        (∃ report, (r.drain w).answer = .ok report) ∧ Quiet (r.drain w).effects.calls) ∨
      ∃ p, (r.drain w).answer = .error p ∧
        CutShort p (r.drain w).effects.calls ((r.catching true).drain w).effects.calls := by
  have hplan : (r.catching true).cleanupPlan w = r.cleanupPlan w := rfl
  have hcatching : (r.catching true).rules.catchPanics = true := rfl
  rcases drainAll_alongside (r.cleanupPlan w) with ⟨hsame, hnone, hquiet⟩ | ⟨p, hp, _, hcut⟩
  · refine Or.inl ⟨?_, ?_, by rwa [drain_calls, hrule]⟩
    · simp only [drain, hrule, hplan, hcatching, hsame, hnone]
      rfl
    · simp only [drain, hrule, hnone]
      exact ⟨_, rfl⟩
  · refine Or.inr ⟨p, ?_, by rwa [drain_calls, drain_calls, hrule]⟩
    simp only [drain, hrule, hp]

theorem unwind_alongside (hrule : r.rules.catchPanics = false) (f : Failure)
    (startup : PassReport) :
    Alongside (r.unwind f startup) ((r.catching true).unwind f startup) := by
  cases hunwind : r.rules.unwindOnStartupFailure with
  | false =>
    have hunwind' : (r.catching true).rules.unwindOnStartupFailure = false := hunwind
    rw [unwind_of_abandoned f startup hunwind, unwind_of_abandoned f startup hunwind']
    exact Or.inl ⟨rfl, by simp, by simp [Quiet]⟩
  | true =>
    have hunwind' : (r.catching true).rules.unwindOnStartupFailure = true := hunwind
    rcases drain_alongside hrule .unwind with ⟨hsame, ⟨report, ha⟩, hquiet⟩ | ⟨p, ha, hcut⟩
    · have ha' : ((r.catching true).drain .unwind).answer = .ok report := by rw [hsame]; exact ha
      rw [unwind_of_swept f startup hunwind ha, unwind_of_swept f startup hunwind' ha', hsame]
      exact Or.inl ⟨rfl, by simp, hquiet⟩
    · rw [unwind_of_left f startup hunwind ha]
      refine Or.inr ⟨p, rfl, ?_⟩
      simp only [unwind, hunwind', if_true]
      split <;> exact hcut

/-- What a startup call does behind its pass comes after all that the pass called. -/
theorem runStartup_calls (hs : r.stage = .collecting) :
    ∃ later, r.runStartup.effects.calls =
      (startAll r.rules.catchPanics r.startup).effects.calls ++ later := by
  simp only [runStartup, refusal?_of_stage (a := .runStartup) hs]
  split
  · exact ⟨[], by simp⟩
  · exact ⟨[], by simp⟩
  · simp only [List.cons_append, Journal.calls_event, Journal.calls_append]
    exact ⟨_, rfl⟩

theorem runStartup_alongside (hrule : r.rules.catchPanics = false) (hs : r.stage = .collecting) :
    Alongside r.runStartup (r.catching true).runStartup := by
  have hs' : (r.catching true).stage = .collecting := hs
  have hcatching : (r.catching true).rules.catchPanics = true := rfl
  have hstartup : (r.catching true).startup = r.startup := rfl
  rcases startAll_alongside r.startup with ⟨hsame, hnone, hquiet⟩ | ⟨p, hp, _, hcut⟩
  · simp only [runStartup, refusal?_of_stage (a := .runStartup) hs,
      refusal?_of_stage (a := .runStartup) hs', hrule, hcatching, hstartup, hsame, hnone]
    cases hf : (startAll false r.startup).report.failures with
    | nil => exact Or.inl ⟨rfl, by simp, by simpa using hquiet⟩
    | cons f fs =>
      have hunwind := unwind_alongside (r := { r with
        stage := .startupRunning
        startup := (startAll false r.startup).hooks
        started := r.started ++ (startAll false r.startup).report.completed }) hrule f
          (startAll false r.startup).report
      exact hunwind.behind (j := .event (.startupBegan _) :: _) (by simpa using hquiet) _ _
  · obtain ⟨later, hlater⟩ := runStartup_calls hs'
    rw [hcatching, hstartup] at hlater
    refine Or.inr ⟨p, ?_, ?_⟩
    · simp only [runStartup, refusal?_of_stage (a := .runStartup) hs, hrule, hp]
    · rw [hlater]
      simp only [runStartup, refusal?_of_stage (a := .runStartup) hs, hrule, hp]
      exact hcut.longer later

theorem runCleanup_alongside (hrule : r.rules.catchPanics = false) (hs : r.stage = .ready) :
    Alongside r.runCleanup (r.catching true).runCleanup := by
  have hs' : (r.catching true).stage = .ready := hs
  have hstart : ({ r.catching true with stage := .cleanupRunning } : Registry) =
    catching { r with stage := .cleanupRunning } true := rfl
  simp only [runCleanup, refusal?_of_stage (a := .runCleanup) hs,
    refusal?_of_stage (a := .runCleanup) hs', hstart]
  rcases drain_alongside (r := { r with stage := .cleanupRunning }) hrule .full with
    ⟨hsame, ⟨report, ha⟩, hquiet⟩ | ⟨p, ha, hcut⟩
  · simp only [hsame, Turn.catching, ha]
    exact Or.inl ⟨rfl, by simp, by simpa using hquiet⟩
  · simp only [ha]
    refine Or.inr ⟨p, rfl, ?_⟩
    split
    · exact hcut
    · simpa using hcut

theorem insert_catching (r : Registry) (k : Hook) (b : Bool) :
    (r.catching b).insert k = (r.insert k).catching b := by
  unfold insert
  split <;> rfl

/-- Registering calls nothing, whatever the rules. -/
theorem register_alongside (r : Registry) (s : Spec) :
    Alongside (r.perform (.register s)) ((r.catching true).perform (.register s)) := by
  have hvet : (r.catching true).vet s = r.vet s := rfl
  refine Or.inl ⟨?_, register_answer r s, by simp [perform, Turn.map, register_calls, Quiet]⟩
  simp only [perform, register, hvet]
  cases r.vet s with
  | error e => rfl
  | ok c =>
    simp only [insert_catching]
    rfl

theorem atExit_alongside (r : Registry) (name : String) (c : Callback) :
    Alongside (r.perform (.atExit name c)) ((r.catching true).perform (.atExit name c)) := by
  have hrefusal : (r.catching true).refusal? .atExit = r.refusal? .atExit := rfl
  refine Or.inl ⟨?_, atExit_answer r name c, by simp [perform, Turn.map, addAtExit_calls, Quiet]⟩
  simp only [perform, addAtExit, hrefusal]
  cases r.refusal? .atExit <;> rfl

/-- Whether panics are caught makes no difference to a call before a callback panics. -/
theorem perform_alongside (hrule : r.rules.catchPanics = false) (op : Op) :
    Alongside (r.perform op) ((r.catching true).perform op) := by
  by_cases hs : r.stage = op.action.stage
  · cases op with
    | register s => exact register_alongside r s
    | atExit name c => exact atExit_alongside r name c
    | runStartup => exact (runStartup_alongside hrule hs).map Answer.report
    | runCleanup => exact (runCleanup_alongside hrule hs).map Answer.report
  · have hs' : (r.catching true).stage ≠ op.action.stage := hs
    rw [perform_refused hs, perform_refused hs']
    exact Or.inl ⟨rfl, by simp [Turn.still], by simp [Turn.still, Quiet]⟩

theorem Alongside.of_quiet {t u : Turn Registry (Ending α)} (h : Alongside t u)
    (hquiet : Quiet t.effects.calls ∨ Quiet u.effects.calls) : u = t.catching true := by
  rcases h with ⟨hsame, _⟩ | ⟨p, _, hcut⟩
  · exact hsame
  · obtain ⟨hleft, hright⟩ := hcut.not_quiet
    rcases hquiet with hq | hq
    · exact absurd hq hleft
    · exact absurd hq hright

theorem journalOf_catching (b : Bool) (ts : List (Turn Registry α)) :
    journalOf (ts.map (Turn.catching b)) = journalOf ts :=
  List.flatMap_map _ _ ts

/-- As long as no callback panics, whole runs go the same way. -/
theorem Sound.trail_catching (sound : r.Sound) (hrule : r.rules.catchPanics = false) (ops : List Op)
    (hquiet : Quiet (journalOf (r.trail ops)).calls ∨
      Quiet (journalOf ((r.catching true).trail ops)).calls) :
    (r.catching true).trail ops = (r.trail ops).map (Turn.catching true) ∧
      (r.catching true).run ops = (r.run ops).catching true := by
  induction ops generalizing r with
  | nil => exact ⟨rfl, rfl⟩
  | cons op ops ih =>
    simp only [trail, journalOf_calls, List.flatMap_cons, quiet_append] at hquiet
    have hhead : (r.catching true).perform op = (r.perform op).catching true :=
      (perform_alongside hrule op).of_quiet (hquiet.imp And.left And.left)
    rw [hhead] at hquiet
    have hrule' : (r.perform op).state.rules.catchPanics = false := by
      rw [(sound.perform_step op).rules, hrule]
    obtain ⟨htrail, hrun⟩ := ih (sound.perform op) hrule' (by
      simp only [journalOf_calls]
      exact hquiet.imp And.right And.right)
    refine ⟨?_, ?_⟩
    · rw [trail, hhead, trail, List.map_cons, ← htrail]
      rfl
    · change ((r.catching true).perform op).state.run ops =
        ((r.perform op).state.run ops).catching true
      rw [hhead, ← hrun]
      rfl

theorem drain_caught (hrule : r.rules.catchPanics = true) (w : Sweep) :
    ∃ report, (r.drain w).answer = .ok report := by
  simp only [drain, hrule, (drainAll_alongside (r.cleanupPlan w)).caught]
  exact ⟨_, rfl⟩

theorem unwind_caught (hrule : r.rules.catchPanics = true) (f : Failure) (startup : PassReport)
    (p : Payload) : (r.unwind f startup).answer ≠ .panic p := by
  cases hunwind : r.rules.unwindOnStartupFailure with
  | false => simp [unwind_of_abandoned f startup hunwind]
  | true =>
    obtain ⟨report, ha⟩ := drain_caught hrule .unwind
    simp [unwind_of_swept f startup hunwind ha]

theorem runStartup_caught (hrule : r.rules.catchPanics = true) (hs : r.stage = .collecting)
    (p : Payload) : r.runStartup.answer ≠ .panic p := by
  rcases startAll_cases r.rules.catchPanics r.startup with
    hall | ⟨pre, k, post, htable, hpre, ⟨f, hk⟩ | ⟨q, hk⟩⟩
  · simp [runStartup_of_completed hs hall]
  · rw [runStartup_of_failed hs ⟨htable, hpre⟩ hk]
    exact unwind_caught (r := r.failedAt pre k post) hrule f _ p
  · have hfree := (Hook.verdict_panicked hk).1
    rw [hrule] at hfree
    cases hfree

/-- Under rules that catch panics none gets out of a call. -/
theorem perform_caught (hrule : r.rules.catchPanics = true) (op : Op) (p : Payload) :
    (r.perform op).answer ≠ .panic p := by
  by_cases hs : r.stage = op.action.stage
  · cases op with
    | register s => exact register_answer r s p
    | atExit name c => exact atExit_answer r name c p
    | runStartup =>
      rw [perform, Turn.map, ne_eq, Ending.map_eq_panic]
      exact runStartup_caught hrule hs p
    | runCleanup =>
      rw [perform, Turn.map, ne_eq, Ending.map_eq_panic]
      obtain ⟨report, ha⟩ := drain_caught (r := { r with stage := .cleanupRunning }) hrule .full
      simp [runCleanup, refusal?_of_stage (a := .runCleanup) hs, ha]
  · rw [perform_refused hs]
    simp [Turn.still]

/-- A panic that is caught is reported as the hook's failure. -/
theorem Sound.caught_failure (sound : r.Sound) (hrule : r.rules.catchPanics = true) {op : Op}
    {h : Handle} {c : Callback} {p : Payload} (he : (h, c) ∈ (r.perform op).effects.calls)
    (hc : c.outcome = .panic p) :
    ∃ f ∈ (r.perform op).answer.failures, f.handle = h ∧
      f.message = "panicked: " ++ p.describe := by
  obtain ⟨htries, _, hreports⟩ := sound.perform_tries op
  rw [htries.calls] at he
  obtain ⟨k, hk, rfl, hcallback⟩ := mem_callsOf.mp he
  have hfails : k.Fails true ("panicked: " ++ p.describe) :=
    ⟨c, hcallback, Or.inr ⟨rfl, p, hc, rfl⟩⟩
  have hverdict := (Hook.fails_iff hfails.isSome).mp hfails
  rw [(hreports (perform_caught hrule op)).2, hrule]
  refine ⟨.ofHook k ("panicked: " ++ p.describe), List.mem_filterMap.mpr ⟨k, hk, ?_⟩, rfl, rfl⟩
  simp [hverdict, Verdict.failure?]

/-- Whether panics are caught shows at the first panic only: up to there two runs are the same,
and where one goes on the other is left for good. -/
theorem run_catching (rules : HookRules) (ops : List Op) :
    let strict := new (rules.catching false)
    let lenient := new (rules.catching true)
    (Quiet (journalOf (strict.trail ops)).calls ∨ Quiet (journalOf (lenient.trail ops)).calls →
      lenient.trail ops = (strict.trail ops).map (Turn.catching true)) ∧
    (Quiet (journalOf (strict.trail ops)).calls → ∀ op h c p,
      let t := (strict.run ops).perform op
      let u := (lenient.run ops).perform op
      (h, c) ∈ t.effects.calls → c.outcome = .panic p →
        t.answer = .panic p ∧
        (∃ ran more, t.effects.calls = ran ++ [(h, c)] ∧ u.effects.calls = ran ++ (h, c) :: more ∧
          ∀ e ∈ (journalOf (strict.trail ops)).calls ++ ran, ∃ s : Status, s.Over ∧
            ∀ later, (t.state.run later).status? e.1 = some s ∧
              (u.state.run later).status? e.1 = some s) ∧
        (∃ f ∈ u.answer.failures, f.handle = h ∧ f.message = "panicked: " ++ p.describe) ∧
        (∀ later, (u.state.run later).status? h = some .failed) ∧
        ∀ later, (t.state.run later).status? h = some .running ∧
          (journalOf (t.state.trail later)).calls = []) := by
  intro strict lenient
  have sound : strict.Sound := sound_new _
  have sound' : lenient.Sound := sound_new _
  have hrule : strict.rules.catchPanics = false := rfl
  have hsame (hq) := sound.trail_catching hrule ops hq
  refine ⟨fun hq => (hsame hq).1, ?_⟩
  intro hquiet op h c p t u hm hc
  obtain ⟨htrail, hrun⟩ := hsame (Or.inl hquiet)
  have hstrict : (strict.run ops).rules.catchPanics = false := by
    rw [sound.run_rules]
    exact hrule
  have hlenient : (lenient.run ops).rules.catchPanics = true := by
    rw [sound'.run_rules]
    rfl
  have halong : Alongside t u := by
    have hstart : lenient.run ops = (strict.run ops).catching true := hrun
    simp only [t, u, hstart]
    exact perform_alongside hstrict op
  rcases halong with ⟨_, _, hq⟩ | ⟨q, hanswer, hcut⟩
  · exact absurd hc (hq _ hm p)
  obtain ⟨rfl, ran, more, hran, hmore, hcalm⟩ := hcut.at_panic hm hc
  have hm' : (h, c) ∈ u.effects.calls := by simp [hmore]
  -- where a hook stands for good is read off its callback, whichever run called it
  have hleft : ∀ e ∈ (journalOf (strict.trail ops)).calls ++ t.effects.calls, ∀ later,
      (t.state.run later).status? e.1 = some (e.2.outcome.status false) := by
    intro e he later
    rw [sound.status_of_called ops op later he, hrule]
  have hright : ∀ e ∈ (journalOf (strict.trail ops)).calls ++ u.effects.calls, ∀ later,
      (u.state.run later).status? e.1 = some (e.2.outcome.status true) := by
    intro e he later
    have hjournal : journalOf (lenient.trail ops) = journalOf (strict.trail ops) := by
      rw [show lenient.trail ops = _ from htrail, journalOf_catching]
    rw [← hjournal] at he
    exact sound'.status_of_called ops op later he
  have hstranded : t.state.Stranded := stranded_of_panic hanswer
  refine ⟨hanswer, ⟨ran, more, hran, hmore, ?_⟩, (sound'.run ops).caught_failure hlenient hm' hc,
    ?_, ?_⟩
  · intro e he
    have hquiet' : ∀ p, e.2.outcome ≠ .panic p := quiet_append.mpr ⟨hquiet, hcalm⟩ e he
    refine ⟨e.2.outcome.status false, (Outcome.status_of_quiet hquiet' false).1, fun later => ?_⟩
    have hin : ∀ cs, e ∈ (journalOf (strict.trail ops)).calls ++ (ran ++ cs) := fun cs => by
      rw [← List.append_assoc]
      exact List.mem_append_left _ he
    rw [hleft e (hran ▸ hin _), hright e (hmore ▸ hin _), (Outcome.status_of_quiet hquiet' true).2]
    exact ⟨rfl, rfl⟩
  · intro later
    rw [hright (h, c) (List.mem_append_right _ hm') later]
    simp [hc, Outcome.status, Outcome.under, Outcome.caught]
  · intro later
    refine ⟨?_, ?_⟩
    · rw [hleft (h, c) (List.mem_append_right _ hm) later]
      simp [hc, Outcome.status, Outcome.under]
    · rw [(hstranded.trail later).2, journalOf_calls]
      simp [Turn.still]

/-- A startup that fails, and a release that panics between two others. -/
def tornOps : List Op :=
  let hook (role : Role) (o : Outcome) : Op :=
    .register ⟨role, none, none, none, some ⟨none, [], o⟩⟩
  [hook .startup .ok, hook .startup (.error "no"), hook (.releasing 1) .ok,
    hook (.releasing 1) (.panic (.text "torn")), hook (.releasing 1) (.error "stuck")]

theorem run_catching_torn :
    let t := ((new (HookRules.catching {} false)).run tornOps).perform .runStartup
    let u := ((new (HookRules.catching {} true)).run tornOps).perform .runStartup
    t.effects.calls.map Prod.fst = [1, 2, 5, 4] ∧ u.effects.calls.map Prod.fst = [1, 2, 5, 4, 3] ∧
      t.answer = .panic (.text "torn") ∧ t.state.status? 4 = some .running ∧
      u.state.status? 4 = some .failed ∧
      ∃ f ∈ u.answer.failures, f.handle = 4 ∧ f.message = "panicked: torn" := by
  intro t u
  have hquiet : Quiet (journalOf ((new (HookRules.catching {} false)).trail tornOps)).calls := by
    have hnone : (journalOf ((new (HookRules.catching {} false)).trail tornOps)).calls = [] := by
      decide
    simp [hnone, Quiet]
  obtain ⟨hanswer, _, hfailure, hfailed, hrunning⟩ := (run_catching {} tornOps).2 hquiet
    .runStartup 4 ⟨none, [], .panic (.text "torn")⟩ (.text "torn") (by decide) rfl
  exact ⟨by decide, by decide, hanswer, (hrunning []).1, hfailed [], hfailure⟩

end Registry
end Bookend

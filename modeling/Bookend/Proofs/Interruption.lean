import Bookend.Launch.UntilShutdown
import Bookend.Proofs.AroundMain
import Bookend.Proofs.Hushed

namespace Bookend

def Hook.sends (k : Hook) : List Reason := (k.callback.map Callback.sends).getD []

/-- The reasons that startup hooks send if all of them run. -/
def Registry.startupSends (r : Registry) : List Reason := r.startup.flatMap Hook.sends

/-- The main that stands for a task once the reasons `heard` are out: it touches no registry, and
it returns the exit status of the newest, or what the task returns if there is none. -/
def Task.plain (t : Task) (heard : List Reason) : Program where
  label := t.label
  ops := []
  finish :=
    match t.finish with
    | .panics p => .panics p
    | .returns s => .returns ((heard.getLast?.map Reason.exitStatus).getD s)

namespace Channel
variable (c : Channel)

theorem send_inbox? (r : Reason) (rx : Nat) :
    (c.send r).inbox? rx = (c.inbox? rx).map (Inbox.put r) := by
  simp only [inbox?, send, List.getElem?_map]
  cases c.receivers[rx]? <;> rfl

/-- Reasons pile up in every inbox that is there. -/
theorem sendAll_inbox? (rs : List Reason) (rx : Nat) :
    (c.sendAll rs).inbox? rx = (c.inbox? rx).map fun i => rs.foldl (fun i r => i.put r) i := by
  induction rs generalizing c with
  | nil => simp [sendAll]
  | cons r rs ih =>
    change ((c.send r).sendAll rs).inbox? rx = _
    rw [ih, send_inbox?, Option.map_map]
    rfl

theorem subscribe_inbox? : c.subscribe.state.inbox? c.subscribe.answer = some .empty := by
  simp [subscribe, inbox?]

/-- A new receiver hears the newest of the reasons sent since, whatever was sent before. -/
theorem poll_newest (rs : List Reason) (r : Reason) :
    ((c.subscribe.state.sendAll (rs ++ [r])).poll c.subscribe.answer).answer = some r := by
  have hinbox : (c.subscribe.state.sendAll (rs ++ [r])).inbox? c.subscribe.answer =
      some ((rs.foldl (fun i r => i.put r) Inbox.empty).put r) := by
    rw [sendAll_inbox?, subscribe_inbox?, Option.map_some, List.foldl_append]
    rfl
  simp only [poll, hinbox]
  cases rs.foldl (fun i r => i.put r) Inbox.empty <;> rfl

end Channel

namespace Journal
variable {β : Type} {f : Effect → Option β}

/-- What is announced are events. -/
theorem filterMap_announced (hf : ∀ e, f (.event e) = none) (n : Nat) (j : Journal) :
    (j.announced n).filterMap f = j.filterMap f := by
  have hannounced (rs : List Reason) :
      (rs.map fun r => Effect.event (.shutdownTriggered r n)).filterMap f = [] := by
    simp [List.filterMap_map, hf]
  induction j with
  | nil => rfl
  | cons e j ih =>
    have hsplit : announced n (e :: j) = announced n [e] ++ announced n j := by
      simp [announced]
    rw [hsplit, List.filterMap_append, ih, ← List.singleton_append (l := j), List.filterMap_append]
    cases e with
    | event e => rfl
    | tally m p => rfl
    | call h c => simp [announced, List.filterMap_cons, hannounced]
    | main l rs => simp [announced, List.filterMap_cons, hannounced]

/-- What a registry leaves by itself is sent by callbacks. -/
theorem sends_of_inner {j : Journal} (h : j.all Effect.isInner = true) :
    j.sends = j.calls.flatMap fun e => e.2.sends := by
  induction j with
  | nil => rfl
  | cons e j ih =>
    obtain ⟨he, hj⟩ := Bool.and_eq_true_iff.mp (List.all_cons.symm.trans h)
    cases e with
    | event e => exact ih hj
    | tally m p => exact ih hj
    | call h c =>
      change c.sends ++ sends j = _
      rw [ih hj, calls_call, List.flatMap_cons]
    | main l rs => cases he

end Journal

namespace Registry
variable {r : Registry}

theorem stage_of_value {report : PassReport} (ha : r.runStartup.answer = .value report) :
    r.stage = .collecting := by
  by_contra hs
  simp [runStartup, refusal?, Action.stage, hs, Turn.still] at ha

/-- A startup pass that succeeds sends all that startup hooks have to send. -/
theorem runStartup_sends {report : PassReport} (ha : r.runStartup.answer = .value report) :
    r.runStartup.effects.sends = r.startupSends := by
  have hs := stage_of_value ha
  have hall := completed_of_value hs ha
  have hcalls : r.runStartup.effects.calls = callsOf r.startup := by
    rw [runStartup_of_completed hs hall]
    simp [Pass.attempted_callsOf, Pass.skipping]
  have hsends (ks : List Hook) :
      (callsOf ks).flatMap (fun e => e.2.sends) = ks.flatMap Hook.sends := by
    induction ks with
    | nil => rfl
    | cons k ks ih =>
      have htail : (callsOf (k :: ks)).flatMap (fun e => e.2.sends) =
          k.sends ++ (callsOf ks).flatMap fun e => e.2.sends := by
        cases hc : k.callback <;> simp [callsOf, Hook.sends, hc]
      rw [htail, ih, List.flatMap_cons]
  rw [Journal.sends_of_inner r.runStartup_inner, hcalls, hsends]
  rfl

end Registry

namespace Task

/-- A task with a new receiver ends as its plain main does. -/
theorem run_finish (t : Task) (c : Channel) (j : Journal) (r : Registry) :
    (t.run c.subscribe.state c.subscribe.answer j r).finish =
      (t.plain (j.sends ++ t.sends)).finish := by
  cases hf : t.finish with
  | panics p => simp [run, plain, hf]
  | returns s =>
    rcases List.eq_nil_or_concat (j.sends ++ t.sends) with hnone | ⟨rs, r, hsome⟩
    · simp [run, plain, hf, hnone]
    · obtain ⟨first, others, hcons⟩ := List.exists_cons_of_ne_nil (l := j.sends ++ t.sends)
        (by simp [hsome])
      have hsent : first :: others = rs ++ [r] := by rw [← hcons, hsome, List.concat_eq_append]
      have hheard : ((c.subscribe.state.sendAll (first :: others)).poll
          c.subscribe.answer).answer = some r := by
        rw [hsent]
        exact c.poll_newest rs r
      have hlast : (first :: others).getLast? = some r := by
        rw [hsent, List.getLast?_concat]
      simp only [run, plain, hf, hcons, hheard, hlast]
      rfl

theorem run_keeps (t : Task) (c : Channel) (rx : Nat) (j : Journal) (r : Registry) :
    (t.run c rx j r).trail = [] ∧ (t.run c rx j r).registry = r := by
  simp only [run]
  split <;> exact ⟨rfl, rfl⟩

section
variable {β : Type} {f : Effect → Option β} (hevent : ∀ e, f (.event e) = none)
include hevent

theorem filterMap_poll (c : Channel) (rx : Nat) : (c.poll rx).effects.filterMap f = [] := by
  simp only [Channel.poll]
  split
  · rfl
  · rfl
  · split <;> simp [hevent]

/-- Whoever sees neither events nor what main sends cannot tell a task from a plain main. -/
theorem filterMap_run (hmain : ∀ l rs, f (.main l rs) = f (.main l [])) (t : Task) (c : Channel)
    (rx : Nat) (j : Journal) (r : Registry) (heard : List Reason) :
    (t.run c rx j r).effects.filterMap f = ((t.plain heard).run r).effects.filterMap f := by
  have hplain : ((t.plain heard).run r).effects.filterMap f =
      [Effect.main t.label []].filterMap f := by
    simp only [Program.run, plain, Registry.trail, journalOf]
    cases t.finish <;> simp [List.filterMap_cons, hevent]
  have hcalled : [Effect.main t.label t.sends].filterMap f =
      [Effect.main t.label []].filterMap f := by
    simp [List.filterMap_cons, hmain t.label t.sends]
  rw [hplain, ← hcalled]
  simp only [run]
  split <;> simp [List.filterMap_cons, hevent, filterMap_poll]

end

end Task

namespace Loader

theorem finish_congr (l : Loader) (startup : PassReport) {m n : MainRun}
    (hfinish : m.finish = n.finish) (hregistry : m.registry = n.registry) :
    l.finish startup m = l.finish startup n := by
  simp only [finish, hfinish, hregistry]

/-- A task and its plain main make the same launch of a loader, up to what is announced. -/
theorem around_plain (l : Loader) (c : Channel) (t : Task) :
    let u := l.around fun r startup => t.run c.subscribe.state c.subscribe.answer startup r
    let v := l.launch (t.plain (l.registry.startupSends ++ t.sends))
    u.result = v.result ∧ u.entered = v.entered ∧ u.trail = v.trail ∧ u.registry = v.registry ∧
      ∀ {β : Type} {f : Effect → Option β}, (∀ e, f (.event e) = none) →
        (∀ l rs, f (.main l rs) = f (.main l [])) →
          u.effects.filterMap f = v.effects.filterMap f := by
  cases hfailed : l.failed with
  | some m => simp [launch, around, hfailed]
  | none =>
    cases hup : l.registry.runStartup.answer with
    | error e => cases e <;> simp [launch, around, hfailed, hup]
    | panic p => simp [launch, around, hfailed, hup]
    | value startup =>
      have hsends := Registry.runStartup_sends hup
      have hfinish := t.run_finish c l.registry.runStartup.effects l.registry.runStartup.state
      rw [hsends] at hfinish
      obtain ⟨htrail, hregistry⟩ := t.run_keeps c.subscribe.state c.subscribe.answer
        l.registry.runStartup.effects l.registry.runStartup.state
      have hdown := l.finish_congr startup (n := (t.plain (l.registry.startupSends ++ t.sends)).run
        l.registry.runStartup.state) hfinish hregistry
      simp only [launch, around, hfailed, hup, hdown]
      refine ⟨trivial, trivial, htrail, trivial, fun hevent hmain => ?_⟩
      have hrun := Task.filterMap_run hevent hmain t c.subscribe.state c.subscribe.answer
        l.registry.runStartup.effects l.registry.runStartup.state
        (l.registry.startupSends ++ t.sends)
      simp only [List.filterMap_append, List.filterMap_cons, hrun]

/-- A launch that can be cut short is a launch around a plain main, which returns the exit status
of the newest reason sent since the launcher listens, if there is one. What was sent before and
what cleanup sends change nothing, nor does any reason change an aborted startup. -/
theorem launchUntilShutdown_refines_launch (s : Settings) (ms : List Module) (c : Channel)
    (before : List Reason) (t : Task) :
    let l := (new s).loaded ms
    let u := (l.launchUntilShutdown (c.sendAll before) t).launch
    let v := l.launch (t.plain (l.registry.startupSends ++ t.sends))
    (u.result = v.result ∧ u.entered = v.entered ∧ u.trail = v.trail ∧ u.registry = v.registry ∧
        u.effects.calls = v.effects.calls ∧ u.effects.labels = v.effects.labels) ∧
      (∀ f startup unwind, l.failed = none →
        l.registry.runStartup.answer = .error (.callbackFailure f startup unwind) →
          u.result = .value ⟨.startupAborted f startup unwind, l.codes⟩ ∧ u.entered = none) ∧
      (((new s).loaded (ms.map Module.hushed)).launchUntilShutdown (c.sendAll before)
        t).launch.result = u.result := by
  intro l u v
  have hresult (l : Loader) : (l.launchUntilShutdown (c.sendAll before) t).launch.result =
      (l.launch (t.plain (l.registry.startupSends ++ t.sends))).result :=
    (l.around_plain (c.sendAll before) t).1
  obtain ⟨_, hentered, htrail, hregistry, heffects⟩ := l.around_plain (c.sendAll before) t
  have hseen {β : Type} (f : Effect → Option β) (hevent : ∀ e, f (.event e) = none)
      (hmain : ∀ l rs, f (.main l rs) = f (.main l [])) :
      u.effects.filterMap f = v.effects.filterMap f :=
    (Journal.filterMap_announced hevent _ _).trans (heffects hevent hmain)
  refine ⟨⟨hresult l, hentered, htrail, hregistry, hseen _ (fun _ => rfl) fun _ _ => rfl,
    hseen _ (fun _ => rfl) fun _ _ => rfl⟩, fun f startup unwind hfailed hup => ?_, ?_⟩
  · obtain ⟨haborted, hnone⟩ := launch_of_aborted
      (p := t.plain (l.registry.startupSends ++ t.sends)) hfailed hup
    exact ⟨(hresult l).trans haborted, hentered.trans hnone⟩
  · have hloaded : (new s).loaded (ms.map Module.hushed) = l.hushed := (new s).loaded_hushed ms
    rw [hloaded]
    exact (hresult l.hushed).trans ((l.launch_hushed rfl).trans (hresult l).symm)

/-- The reason that main sends comes after that of startup; the earlier one and the one that
cleanup sends count for nothing. -/
example :
    let l := (new {}).loaded [⟨"pump", [⟨.onStartup "open" ⟨none, [.interrupt], .ok⟩, false⟩,
      ⟨.onCleanup "close" ⟨none, [.requested], .ok⟩, false⟩]⟩]
    let u := l.launchUntilShutdown (.sendAll .new [.requested]) ⟨none, [.terminate], .returns 3⟩
    ∃ startup cleanup, u.launch.result = .value ⟨.completed startup 143 cleanup, {}⟩ :=
  ⟨_, _, rfl⟩

end Loader
end Bookend

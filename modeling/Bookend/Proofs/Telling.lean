import Bookend.Proofs.Counters
import Bookend.Proofs.Reporting

namespace Bookend

namespace Event

def invoked? : Event → Option Handle
  | invoking _ h _ => some h
  | _ => none

def failed? : Event → Option (Handle × String)
  | hookFailed _ h _ m => some (h, m)
  | _ => none

def passedOver? : Event → Option Handle
  | notEligible _ h => some h
  | _ => none

/-- How many hooks a sweep is about to call, and whether it unwinds. -/
def began? : Event → Option (Nat × Bool)
  | cleanupBegan hooks unwind => some (hooks, unwind)
  | _ => none

/-- The event closes a pass. -/
def closes : Event → Bool
  | startupCompleted .. | startupAborted .. | cleanupCompleted .. | cleanupFailed .. => true
  | _ => false

@[simp] theorem invoked?_invoking (hook : String) (h : Handle) (p : Phase) :
    (invoking hook h p).invoked? = some h := rfl

@[simp] theorem invoked?_hookFailed (hook : String) (h : Handle) (p : Phase) (m : String) :
    (hookFailed hook h p m).invoked? = none := rfl

@[simp] theorem failed?_invoking (hook : String) (h : Handle) (p : Phase) :
    (invoking hook h p).failed? = none := rfl

@[simp] theorem failed?_hookFailed (hook : String) (h : Handle) (p : Phase) (m : String) :
    (hookFailed hook h p m).failed? = some (h, m) := rfl

/-- The event tells of no call. -/
def Mute (e : Event) : Prop := e.invoked? = none ∧ e.failed? = none

/-- The event neither opens nor closes a pass. -/
def Inner (e : Event) : Prop := e.passedOver? = none ∧ e.began? = none ∧ e.closes = false

end Event

def Failure.event (f : Failure) : Event := .hookFailed f.name f.handle f.phase f.message

/-- What a callback itself is heard to do, with `n` listeners. -/
def Callback.heard (n : Nat) (c : Callback) : List Event := c.sends.map (.shutdownTriggered · n)

/-- The events of a journal, those that callbacks cause among them. -/
def Journal.told (n : Nat) (j : Journal) : List Event := (j.announced n).events

/-- The event with which a pass closes that ended as reported. -/
def PassReport.lastWord (p : PassReport) : Event :=
  match p.phase, p.failures with
  | .startup, [] => .startupCompleted p.completed.length
  | .startup, f :: _ => .startupAborted f.name f.message p.skipped.length
  | .cleanup, [] => .cleanupCompleted p.completed.length
  | .cleanup, fs => .cleanupFailed fs.length p.completed.length

/-- Each failure stands right behind the invocation of its hook, but for what the callback itself
caused. -/
def FailsBehind (n : Nat) (calls : List (Handle × Callback)) (es : List Event) : Prop :=
  ∀ pre hook h phase m post, es = pre ++ .hookFailed hook h phase m :: post →
    ∃ front c, (h, c) ∈ calls ∧ pre = front ++ .invoking hook h phase :: c.heard n

/-- The events tell of the hooks `invoked` and of `failures`, and of no others. -/
structure Mirrors (n : Nat) (calls : List (Handle × Callback)) (invoked : List Handle)
    (failures : List Failure) (es : List Event) : Prop where
  invoked : es.filterMap Event.invoked? = invoked
  failed : es.filterMap Event.failed? = failures.map fun f => (f.handle, f.message)
  behind : FailsBehind n calls es

/-- A sweep first tells what it passes over, then how many hooks it calls, and why. -/
structure Opens (unwind : Bool) (p : PassReport) (es : List Event) : Prop where
  began : es.filterMap Event.began? = [(p.invoked.length, unwind)]
  skipped : ∃ out rest, es = out ++ .cleanupBegan p.invoked.length unwind :: rest ∧
    (∀ e ∈ out, e.passedOver?.isSome) ∧ out.filterMap Event.passedOver? = p.skipped ∧
    rest.filterMap Event.passedOver? = []

/-- A pass closes with its counts, as an error just if a hook failed. -/
structure Closes (p : PassReport) (es : List Event) : Prop where
  only : es.filter Event.closes = [p.lastWord]
  last : es.getLast? = some p.lastWord
  grave : (∃ e ∈ es, e.closes = true ∧ e.level = .error) ↔ p.failures ≠ []

namespace Journal
variable {n : Nat} {i j : Journal}

@[simp] theorem told_nil : told n [] = [] := rfl

@[simp] theorem told_event (e : Event) : told n (.event e :: j) = e :: told n j := rfl

@[simp] theorem told_tally (m : Metric) (p : Phase) : told n (.tally m p :: j) = told n j := rfl

@[simp] theorem told_append : told n (i ++ j) = told n i ++ told n j := by
  simp [told, announced, events]

@[simp] theorem told_call (h : Handle) (c : Callback) :
    told n (.call h c :: j) = c.heard n ++ told n j := by
  have hsends (rs : List Reason) :
      events (rs.map fun r => .event (.shutdownTriggered r n)) =
        rs.map (.shutdownTriggered · n) := by
    induction rs with
    | nil => rfl
    | cons r rs ih => exact congrArg (_ :: ·) ih
  have hsplit : told n (.call h c :: j) = told n [.call h c] ++ told n j :=
    told_append (i := [.call h c])
  rw [hsplit, Callback.heard, ← hsends]
  simp [told, announced, events]

theorem told_events (f : α → Event) (as : List α) :
    told n (as.map fun a => .event (f a)) = as.map f := by
  induction as with
  | nil => rfl
  | cons a as ih => rw [List.map_cons, told_event, ih, List.map_cons]

end Journal

section
variable {n : Nat} {calls : List (Handle × Callback)} {b : Bool} {k : Hook} {ks : List Hook}
  {es ds : List Event} {p : PassReport}

theorem failed?_heard (c : Callback) : ∀ e ∈ c.heard n, e.failed? = none :=
  List.forall_mem_map.mpr fun _ _ => rfl

theorem invoked?_heard (c : Callback) : ∀ e ∈ c.heard n, e.invoked? = none :=
  List.forall_mem_map.mpr fun _ _ => rfl

theorem FailsBehind.append (hes : FailsBehind n calls es) (hds : FailsBehind n calls ds) :
    FailsBehind n calls (es ++ ds) := by
  intro pre hook h phase m post he
  rcases List.append_eq_append_iff.mp he with ⟨as, rfl, hd⟩ | ⟨bs, hes', hpost⟩
  · obtain ⟨front, c, hc, rfl⟩ := hds as hook h phase m post hd
    exact ⟨es ++ front, c, hc, by simp⟩
  · cases bs with
    | nil =>
      -- the failure would be the first event of `ds`, with no invocation before it
      obtain ⟨front, c, _, hfront⟩ := hds [] hook h phase m post (by simpa using hpost.symm)
      simp at hfront
    | cons e bs =>
      obtain ⟨rfl, _⟩ := List.cons.inj hpost
      exact hes pre hook h phase m bs hes'

theorem FailsBehind.of_none (h : ∀ e ∈ es, e.failed? = none) : FailsBehind n calls es := by
  rintro pre hook i phase m post rfl
  have hnone := h (.hookFailed hook i phase m) (by simp)
  cases hnone

theorem FailsBehind.single {f : Failure} {c : Callback} (hc : (f.handle, c) ∈ calls) :
    FailsBehind n calls (.invoking f.name f.handle f.phase :: c.heard n ++ [f.event]) := by
  intro pre hook h phase m post he
  have hquiet : ∀ e ∈ Event.invoking f.name f.handle f.phase :: c.heard n, e.failed? = none :=
    List.forall_mem_cons.mpr ⟨rfl, failed?_heard c⟩
  rcases List.append_eq_append_iff.mp he with ⟨as, rfl, hlast⟩ | ⟨bs, hfront, hpost⟩
  · cases as with
    | cons e as => simp at hlast
    | nil =>
      obtain ⟨hevent, _⟩ := List.cons.inj hlast
      cases hevent
      exact ⟨[], c, hc, List.append_nil _⟩
  · cases bs with
    | nil =>
      obtain ⟨hevent, _⟩ := List.cons.inj hpost
      cases hevent
      exact ⟨[], c, hc, by simpa using hfront.symm⟩
    | cons e bs =>
      obtain ⟨rfl, _⟩ := List.cons.inj hpost
      have hnone := hquiet (.hookFailed hook h phase m) (by simp [hfront])
      cases hnone

namespace Mirrors
variable {hs is : List Handle} {fs gs : List Failure}

theorem append (h : Mirrors n calls hs fs es) (h' : Mirrors n calls is gs ds) :
    Mirrors n calls (hs ++ is) (fs ++ gs) (es ++ ds) where
  invoked := by rw [List.filterMap_append, h.invoked, h'.invoked]
  failed := by rw [List.filterMap_append, h.failed, h'.failed, List.map_append]
  behind := h.behind.append h'.behind

theorem of_mute (h : ∀ e ∈ es, e.Mute) : Mirrors n calls [] [] es where
  invoked := List.filterMap_eq_nil_iff.mpr fun e he => (h e he).1
  failed := List.filterMap_eq_nil_iff.mpr fun e he => (h e he).2
  behind := .of_none fun e he => (h e he).2

end Mirrors

/-- An attempt tells of the invocation, then of what the callback did, then of a failure if there
was one. -/
theorem told_invoke {c : Callback} (hc : k.callback = some c) :
    Journal.told n (k.invoke b).effects =
      .invoking k.name k.handle k.phase :: c.heard n ++
        ((k.verdict b).failure?.map Failure.event).toList := by
  cases ho : c.outcome.under b <;>
    simp [Hook.invoke, Hook.verdict, hc, ho, Hook.opening, Verdict.failure?, Failure.event,
      Failure.ofHook]

theorem mirrors_invoke {c : Callback} (hc : k.callback = some c) (hcall : (k.handle, c) ∈ calls) :
    Mirrors n calls [k.handle] (failuresOf b [k]) (Journal.told n (k.invoke b).effects) := by
  have hinvoked := List.filterMap_eq_nil_iff.mpr (invoked?_heard (n := n) c)
  have hfailed := List.filterMap_eq_nil_iff.mpr (failed?_heard (n := n) c)
  rw [told_invoke hc]
  cases hv : k.verdict b with
  | failed f =>
    obtain ⟨m, rfl⟩ := Hook.verdict_failure hv
    refine ⟨?_, ?_, .single (f := .ofHook k m) hcall⟩
    · simp [Verdict.failure?, Failure.event, hinvoked]
    · simp [Verdict.failure?, Failure.event, List.filterMap_cons, hfailed, failuresOf, hv,
        Failure.ofHook]
  | _ =>
    refine ⟨?_, ?_, .of_none ?_⟩
    · simp [Verdict.failure?, hinvoked]
    · simpa [Verdict.failure?, failuresOf, hv] using failed?_heard c
    · simpa [Verdict.failure?] using failed?_heard c

/-- The attempts of a pass tell of its calls, each in its place. -/
theorem mirrors_attempts (hheld : ∀ k ∈ ks, k.callback.isSome) (hcalls : callsOf ks ⊆ calls) :
    Mirrors n calls (ks.map Hook.handle) (failuresOf b ks)
      (Journal.told n (attemptEffects b ks)) := by
  induction ks with
  | nil => exact .of_mute (by simp [attemptEffects])
  | cons k ks ih =>
    obtain ⟨hk, hks⟩ := List.forall_mem_cons.mp hheld
    obtain ⟨c, hc⟩ := Option.isSome_iff_exists.mp hk
    have hsplit : callsOf (k :: ks) = (k.handle, c) :: callsOf ks := by simp [callsOf, hc]
    rw [hsplit] at hcalls
    obtain ⟨hcall, hrest⟩ := List.cons_subset.mp hcalls
    rw [attemptEffects_cons, Journal.told_append]
    have happend : failuresOf b (k :: ks) = failuresOf b [k] ++ failuresOf b ks :=
      List.filterMap_append (l := [k])
    rw [happend]
    exact (mirrors_invoke hc hcall).append (ih hks hrest)

/-- Attempts neither open nor close a pass. -/
theorem inner_attempts (hheld : ∀ k ∈ ks, k.callback.isSome) :
    ∀ e ∈ Journal.told n (attemptEffects b ks), e.Inner := by
  induction ks with
  | nil => simp [attemptEffects]
  | cons k ks ih =>
    obtain ⟨hk, hks⟩ := List.forall_mem_cons.mp hheld
    obtain ⟨c, hc⟩ := Option.isSome_iff_exists.mp hk
    rw [attemptEffects_cons, Journal.told_append, told_invoke hc]
    refine List.forall_mem_append.mpr ⟨List.forall_mem_append.mpr ⟨?_, ?_⟩, ih hks⟩
    · refine List.forall_mem_cons.mpr ⟨⟨rfl, rfl, rfl⟩, fun e he => ?_⟩
      obtain ⟨r, _, rfl⟩ := List.mem_map.mp he
      exact ⟨rfl, rfl, rfl⟩
    · intro e he
      obtain ⟨f, _, rfl⟩ := Option.map_eq_some_iff.mp (Option.mem_toList.mp he)
      exact ⟨rfl, rfl, rfl⟩

theorem lastWord_closes (p : PassReport) : p.lastWord.closes = true := by
  unfold PassReport.lastWord
  split <;> rfl

theorem lastWord_level (p : PassReport) : p.lastWord.level = .error ↔ p.failures ≠ [] := by
  unfold PassReport.lastWord
  split <;> simp_all [Event.level]

theorem lastWord_mute (p : PassReport) : p.lastWord.Mute := by
  unfold PassReport.lastWord
  split <;> exact ⟨rfl, rfl⟩

/-- A pass that ends with its last word closes by it, if nothing closed it before. -/
theorem Closes.concat (h : ∀ e ∈ es, e.closes = false) : Closes p (es ++ [p.lastWord]) := by
  have hnone : es.filter Event.closes = [] :=
    List.filter_eq_nil_iff.mpr fun e he => by simp [h e he]
  refine ⟨by simp [hnone, lastWord_closes], by simp, ?_⟩
  rw [← lastWord_level]
  constructor
  · rintro ⟨e, he, hcloses, hlevel⟩
    rcases List.mem_append.mp he with he | he
    · simp [h e he] at hcloses
    · rwa [← List.mem_singleton.mp he]
  · exact fun hlevel => ⟨p.lastWord, by simp, lastWord_closes p, hlevel⟩

end

namespace Registry
variable {r : Registry} {n : Nat} {calls : List (Handle × Callback)} {w : Sweep} {op : Op}
  {pre post : List Hook} {k : Hook} {f : Failure}

theorem attempted_effects (b : Bool) (ks : List Hook) (rest : Pass) :
    (Pass.attempted b ks rest).effects = attemptEffects b ks ++ rest.effects := rfl

/-- A sweep tells what it passes over, opens, and then tells what it tries. -/
theorem told_sweep (r : Registry) (w : Sweep) :
    Journal.told n (r.sweepEffects w) =
      (r.ineligible w).map (fun k => .notEligible k.name k.handle) ++
        .cleanupBegan (r.cleanupPlan w).length (w == .unwind) ::
          Journal.told n (attemptEffects r.rules.catchPanics (r.cleanupPlan w)) := by
  simp [sweepEffects, sweepOpening, attempted_effects, Pass.skipping, Journal.told_events]

theorem sweep_mirrors (hheld : ∀ k ∈ r.cleanupPlan w, k.callback.isSome)
    (hcalls : callsOf (r.cleanupPlan w) ⊆ calls) :
    Mirrors n calls (r.sweepReport w).invoked (r.sweepReport w).failures
      (Journal.told n (r.sweepEffects w)) := by
  have hmute : ∀ e ∈ (r.ineligible w).map (fun k => Event.notEligible k.name k.handle), e.Mute :=
    List.forall_mem_map.mpr fun _ _ => ⟨rfl, rfl⟩
  have hopening : ∀ e ∈ [Event.cleanupBegan (r.cleanupPlan w).length (w == .unwind)], e.Mute :=
    List.forall_mem_singleton.mpr ⟨rfl, rfl⟩
  rw [told_sweep]
  exact (Mirrors.of_mute hmute).append
    ((Mirrors.of_mute hopening).append (mirrors_attempts hheld hcalls))

theorem sweep_opens (hheld : ∀ k ∈ r.cleanupPlan w, k.callback.isSome) (last : List Event)
    (hlast : ∀ e ∈ last, e.passedOver? = none ∧ e.began? = none) :
    Opens (w == .unwind) (r.sweepReport w) (Journal.told n (r.sweepEffects w) ++ last) := by
  have hinner := inner_attempts (n := n) (b := r.rules.catchPanics) hheld
  have hrest : ∀ e ∈ Journal.told n (attemptEffects r.rules.catchPanics (r.cleanupPlan w)) ++ last,
      e.passedOver? = none ∧ e.began? = none :=
    List.forall_mem_append.mpr ⟨fun e he => ⟨(hinner e he).1, (hinner e he).2.1⟩, hlast⟩
  have hout : (r.ineligible w).filterMap
      (Event.began? ∘ fun k => Event.notEligible k.name k.handle) = [] :=
    List.filterMap_eq_nil_iff.mpr fun _ _ => rfl
  have hbegan := List.filterMap_eq_nil_iff.mpr fun e he => (hrest e he).2
  have hlength : (r.sweepReport w).invoked.length = (r.cleanupPlan w).length := List.length_map _
  rw [told_sweep, List.append_assoc, List.cons_append]
  refine ⟨?_, _, _, by rw [hlength], ?_, ?_, ?_⟩
  · rw [List.filterMap_append, List.filterMap_map, hout, List.nil_append, List.filterMap_cons,
      hbegan, hlength]
    rfl
  · exact List.forall_mem_map.mpr fun _ _ => rfl
  · rw [List.filterMap_map]
    exact List.filterMap_eq_map ▸ rfl
  · exact List.filterMap_eq_nil_iff.mpr fun e he => (hrest e he).1

theorem sweep_unclosed (hheld : ∀ k ∈ r.cleanupPlan w, k.callback.isSome) :
    ∀ e ∈ Journal.told n (r.sweepEffects w), e.closes = false := by
  rw [told_sweep]
  refine List.forall_mem_append.mpr ⟨List.forall_mem_map.mpr fun _ _ => rfl, ?_⟩
  exact List.forall_mem_cons.mpr ⟨rfl, fun e he => (inner_attempts hheld e he).2.2⟩

/-- A startup pass opens, tells what it tries, and closes. -/
theorem startup_mirrors {ks : List Hook} {p : PassReport} {b : Bool} (hooks : Nat)
    (hheld : ∀ k ∈ ks, k.callback.isSome) (hcalls : callsOf ks ⊆ calls)
    (hinvoked : p.invoked = ks.map Hook.handle) (hfailures : p.failures = failuresOf b ks) :
    let es := .startupBegan hooks :: Journal.told n (attemptEffects b ks) ++ [p.lastWord]
    Mirrors n calls p.invoked p.failures es ∧ Closes p es := by
  intro es
  have hfirst : ∀ e ∈ [Event.startupBegan hooks], e.Mute :=
    List.forall_mem_singleton.mpr ⟨rfl, rfl⟩
  have hlast : ∀ e ∈ [p.lastWord], e.Mute := List.forall_mem_singleton.mpr (lastWord_mute p)
  rw [hinvoked, hfailures]
  constructor
  · have hmirrors : Mirrors n calls _ _ _ := ((Mirrors.of_mute hfirst).append
      (mirrors_attempts (b := b) hheld hcalls)).append (.of_mute hlast)
    simpa [es] using hmirrors
  · refine .concat (List.forall_mem_cons.mpr ⟨rfl, fun e he => ?_⟩)
    exact (inner_attempts hheld e he).2.2

theorem closing_eq_lastWord {p : PassReport} (h : p.phase = .cleanup) : closing p = p.lastWord := by
  unfold closing PassReport.lastWord PassReport.success
  rw [h]
  cases p.failures <;> rfl

theorem told_started (r : Registry) :
    Journal.told n r.startedEffects =
      .startupBegan r.startup.length ::
          Journal.told n (attemptEffects r.rules.catchPanics r.startup) ++
        [r.startedReport.lastWord] := by
  have hlast : r.startedReport.lastWord = .startupCompleted r.startup.length := by
    simp [PassReport.lastWord, startedReport, startupOrder]
  rw [hlast]
  simp [startedEffects, attempted_effects, Pass.skipping]

theorem told_failed (r : Registry) (pre : List Hook) (k : Hook) (post : List Hook) (f : Failure) :
    Journal.told n (r.failedOpening pre k post f) =
      .startupBegan r.startup.length ::
          Journal.told n (attemptEffects r.rules.catchPanics (pre ++ [k])) ++
        [(failedReport pre k post f).lastWord] := by
  have hlast : (failedReport pre k post f).lastWord =
      .startupAborted f.name f.message post.length := by
    simp [PassReport.lastWord, failedReport]
  rw [hlast]
  simp [failedOpening, attempted_effects, Pass.skipping]

theorem calls_started (r : Registry) : r.startedEffects.calls = callsOf r.startup := by
  simp [startedEffects, Pass.attempted_callsOf, Pass.skipping]

theorem calls_sweep (r : Registry) (w : Sweep) :
    (r.sweepEffects w).calls = callsOf (r.cleanupPlan w) := by
  simp [sweepEffects, Pass.attempted_callsOf, Pass.skipping]

theorem calls_failed (r : Registry) (pre : List Hook) (k : Hook) (post : List Hook) (f : Failure) :
    (r.failedOpening pre k post f).calls = callsOf (pre ++ [k]) := by
  simp [failedOpening, Pass.attempted_callsOf, Pass.skipping]

/-- The events of a startup pass that came through. -/
theorem started_mirrors (h : ∀ k ∈ r.startup, k.verdict r.rules.catchPanics = .completed)
    (hheld : ∀ k ∈ r.startup, k.callback.isSome) (hcalls : callsOf r.startup ⊆ calls) :
    let p := r.startedReport
    let es := Journal.told n r.startedEffects
    Mirrors n calls p.invoked p.failures es ∧ Closes p es := by
  intro p es
  have hmirrors := startup_mirrors (n := n) r.startup.length hheld hcalls (p := p) rfl
    (failuresOf_completed h).symm
  rw [← told_started] at hmirrors
  exact hmirrors

/-- The events of a startup pass that failed. -/
theorem StopsAt.failed_mirrors (h : r.StopsAt pre k post)
    (hk : k.verdict r.rules.catchPanics = .failed f) (hheld : ∀ k ∈ r.startup, k.callback.isSome)
    (hcalls : callsOf (pre ++ [k]) ⊆ calls) :
    let p := failedReport pre k post f
    let es := Journal.told n (r.failedOpening pre k post f)
    Mirrors n calls p.invoked p.failures es ∧ Closes p es := by
  intro p es
  have hfirst : ∀ a ∈ pre ++ [k], a.callback.isSome := fun a ha => hheld a (h.first.subset ha)
  have hfailures : p.failures = failuresOf r.rules.catchPanics (pre ++ [k]) := by
    rw [failuresOf_append, failuresOf_completed h.completed, failuresOf_failed hk]
    rfl
  have hmirrors := startup_mirrors (n := n) r.startup.length hfirst hcalls (p := p) rfl hfailures
  rw [← told_failed] at hmirrors
  exact hmirrors

/-- The events of a full cleanup. -/
theorem cleaned_mirrors (hheld : ∀ k ∈ r.cleanupPlan .full, k.callback.isSome)
    (hcalls : callsOf (r.cleanupPlan .full) ⊆ calls) :
    let p := r.sweepReport .full
    let es := Journal.told n (r.sweepEffects .full ++ [.event (closing p)])
    Mirrors n calls p.invoked p.failures es ∧ Closes p es ∧ Opens false p es := by
  intro p es
  have hes : es = Journal.told n (r.sweepEffects .full) ++ [p.lastWord] := by
    rw [← closing_eq_lastWord (p := p) rfl]
    exact Journal.told_append
  have hlast : ∀ e ∈ [p.lastWord], e.passedOver? = none ∧ e.began? = none := by
    rw [← closing_eq_lastWord (p := p) rfl]
    refine List.forall_mem_singleton.mpr ?_
    unfold closing
    split <;> exact ⟨rfl, rfl⟩
  have hmute : Mirrors n calls [] [] [p.lastWord] :=
    .of_mute (List.forall_mem_singleton.mpr (lastWord_mute p))
  rw [hes]
  refine ⟨?_, .concat (sweep_unclosed hheld), sweep_opens hheld _ hlast⟩
  simpa using (sweep_mirrors hheld hcalls).append hmute

/-- The events of a call that came back are those of its passes, one after the other, and each pass
is told as it is reported. -/
theorem Returned.told {t : Turn Registry (Ending Answer)} (h : r.Returned op t) (sound : r.Sound)
    (n : Nat) :
    let es := t.effects.told n
    let calls := t.effects.calls
    (∀ p, t.answer = .value (.report p) →
      Mirrors n calls p.invoked p.failures es ∧ Closes p es ∧
        (op = .runCleanup → Opens false p es)) ∧
      ∀ f startup unwind, t.answer = .error (.callbackFailure f startup unwind) →
        ∃ first second, es = first ++ second ∧
          Mirrors n calls startup.invoked startup.failures first ∧ Closes startup first ∧
          if r.rules.unwindOnStartupFailure then
            Mirrors n calls unwind.invoked unwind.failures second ∧ Opens true unwind second ∧
              second.filter Event.closes = []
          else second = [] := by
  intro es calls
  cases h with
  | started stage all =>
    obtain ⟨hup, _⟩ := forall_hooks.mp (sound.holding_collecting stage)
    obtain ⟨hmirrors, hcloses⟩ := started_mirrors (n := n) all hup (List.Subset.refl _)
    rw [← calls_started] at hmirrors
    refine ⟨?_, nofun⟩
    rintro p ⟨⟩
    exact ⟨hmirrors, hcloses, nofun⟩
  | @unwound pre post k f stage stops failed rule calm =>
    obtain ⟨hup, hdown⟩ := forall_hooks.mp (sound.holding_collecting stage)
    have hplan : ∀ a ∈ (r.failedAt pre k post).cleanupPlan .unwind, a.callback.isSome :=
      fun a ha => hdown a (mem_hooks_of_plan (r := r.failedAt pre k post) ha)
    have hcalls : calls = callsOf (pre ++ [k]) ++
        callsOf ((r.failedAt pre k post).cleanupPlan .unwind) := by
      rw [← calls_failed, ← calls_sweep]
      exact Journal.calls_append _ _
    obtain ⟨hmirrors, hcloses⟩ := stops.failed_mirrors (n := n) failed hup
      (List.subset_append_left (callsOf (pre ++ [k])) _)
    rw [← hcalls] at hmirrors
    refine ⟨nofun, ?_⟩
    rintro _ _ _ ⟨⟩
    refine ⟨_, _, Journal.told_append, hmirrors, hcloses, ?_⟩
    rw [if_pos rule]
    refine ⟨sweep_mirrors hplan (hcalls ▸ List.subset_append_right _ _), ?_, ?_⟩
    · simpa using sweep_opens (n := n) hplan [] (by simp)
    · exact List.filter_eq_nil_iff.mpr fun e he => by simp [sweep_unclosed hplan e he]
  | @abandoned pre post k f stage stops failed rule =>
    obtain ⟨hup, _⟩ := forall_hooks.mp (sound.holding_collecting stage)
    have hcalls : calls = callsOf (pre ++ [k]) := calls_failed r pre k post f
    obtain ⟨hmirrors, hcloses⟩ := stops.failed_mirrors (n := n) failed hup (List.Subset.refl _)
    rw [← hcalls] at hmirrors
    refine ⟨nofun, ?_⟩
    rintro _ _ _ ⟨⟩
    refine ⟨_, [], (List.append_nil _).symm, hmirrors, hcloses, ?_⟩
    rw [if_neg (by simp [rule])]
  | cleaned stage calm =>
    have hcalls : callsOf (r.cleanupPlan .full) ⊆ calls := by
      rw [← calls_sweep]
      simp [calls]
    obtain ⟨hmirrors, hcloses, hopens⟩ :=
      cleaned_mirrors (n := n) (sound.holding_ready stage) hcalls
    refine ⟨?_, nofun⟩
    rintro p ⟨⟩
    exact ⟨hmirrors, hcloses, fun _ => hopens⟩

/-- What a startup or a cleanup pass tells in events is what it reports: its calls in their order,
each failure behind its call, what a sweep passes over before it begins, and the counts at its end.
The passes of a call do not mix, and one that was not made tells nothing. -/
theorem run_events_mirror (rules : HookRules) (ops : List Op) (op : Op) (n : Nat) :
    let t := ((new rules).run ops).perform op
    let es := t.effects.told n
    let calls := t.effects.calls
    (∀ p, t.answer = .value (.report p) →
      Mirrors n calls p.invoked p.failures es ∧ Closes p es ∧
        (op = .runCleanup → Opens false p es)) ∧
      ∀ f startup unwind, t.answer = .error (.callbackFailure f startup unwind) →
        ∃ first second, es = first ++ second ∧
          Mirrors n calls startup.invoked startup.failures first ∧ Closes startup first ∧
          if rules.unwindOnStartupFailure then
            Mirrors n calls unwind.invoked unwind.failures second ∧ Opens true unwind second ∧
              second.filter Event.closes = []
          else second = [] := by
  intro t es calls
  have sound := sound_run rules ops
  have told {p : PassReport} (h : p ∈ t.answer.reports) :=
    (sound.toTables.perform_returned h).told sound n
  rw [run_rules] at told
  refine ⟨fun p ha => ?_, fun f startup unwind ha => ?_⟩
  · exact (told (p := p) (by simp [ha, Ending.reports])).1 p ha
  · exact (told (p := startup) (by simp [ha, Ending.reports])).2 f startup unwind ha

theorem run_events_mirror_ragged :
    let t := ((new {}).run raggedOps).perform .runStartup
    ∃ f startup unwind first second, t.answer = .error (.callbackFailure f startup unwind) ∧
      startup.failures = [f] ∧ unwind.skipped = [3] ∧ t.effects.told 2 = first ++ second ∧
      Mirrors 2 t.effects.calls [1, 4] startup.failures first ∧ Closes startup first ∧
      Mirrors 2 t.effects.calls [2] unwind.failures second ∧ Opens true unwind second := by
  have hanswer : (((new {}).run raggedOps).perform .runStartup).answer =
      .error (.callbackFailure ⟨4, "hook-4", none, .startup, "panicked: boom"⟩
        ⟨.startup, [1, 4], [1], [5], [⟨4, "hook-4", none, .startup, "panicked: boom"⟩]⟩
        ⟨.cleanup, [2], [], [3], [⟨2, "hook-2", some "core", .cleanup, "stuck"⟩]⟩) := by decide
  obtain ⟨first, second, hsplit, hfirst, hcloses, hsecond⟩ :=
    (run_events_mirror {} raggedOps .runStartup 2).2 _ _ _ hanswer
  rw [if_pos rfl] at hsecond
  exact ⟨_, _, _, first, second, hanswer, rfl, rfl, hsplit, hfirst, hcloses, hsecond.1, hsecond.2.1⟩

end Registry

end Bookend

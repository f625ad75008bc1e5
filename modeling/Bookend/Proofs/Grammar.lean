import Bookend.Proofs.Hosting
import Bookend.Proofs.Stranded

namespace Bookend

/-- The call was turned down before it did anything. -/
def Error.isRefusal : Error → Bool
  | nullCallback | invalidPhase _ _ | unknownHandle _ => true
  | callbackFailure _ _ _ | incompleteLoad _ => false

namespace Ending

def refuses : Ending α → Bool
  | error e => e.isRefusal
  | value _ | panic _ => false

def isValue : Ending α → Bool
  | value _ => true
  | error _ | panic _ => false

theorem isValue_of_refuses {a : Ending α} (h : a.refuses = true) : a.isValue = false := by
  cases a with
  | value x => cases h
  | _ => rfl

@[simp] theorem map_refuses (f : α → β) (a : Ending α) : (a.map f).refuses = a.refuses := by
  cases a <;> rfl

@[simp] theorem map_isValue (f : α → β) (a : Ending α) : (a.map f).isValue = a.isValue := by
  cases a <;> rfl

end Ending

namespace Op

/-- A hook that is to be registered has a callback, and its owner is a startup hook of `r`. -/
def WellMade (r : Registry) : Op → Prop
  | register s => s.callback.isSome ∧ ∀ o, s.role.releases = some o → o ∈ r.startupOrder
  | _ => True

/-- The answer of a call after which a registry admits no other: an aborted startup, a finished
cleanup, or a panic. -/
def Ends (op : Op) : Ending Answer → Prop
  | .value _ => op = .runCleanup
  | .error (.callbackFailure _ _ _) | .panic _ => True
  | .error _ => False

end Op

/-- The calls of a whole life: hooks are registered, startup runs, handlers are added, cleanup
runs. -/
def life (hooks handlers : Nat) : List Action :=
  List.replicate hooks .register ++
    .runStartup :: (List.replicate handlers .atExit ++ [.runCleanup])

/-- Calls, each with whether it returned a value, that begin some life, and among which nothing
follows a startup pass without one. -/
def Lawful (w : List (Action × Bool)) : Prop :=
  (∃ hooks handlers, w.map Prod.fst <+: life hooks handlers) ∧
    ∀ u v, w = u ++ (.runStartup, false) :: v → v = []

/-- Calls after which no other is lawful: a startup pass without a value, or a whole life. -/
def Concluded (w : List (Action × Bool)) : Prop :=
  (∃ n, w = List.replicate n (.register, true) ++ [(.runStartup, false)]) ∨
    ∃ n m b, w = List.replicate n (.register, true) ++
      (.runStartup, true) :: (List.replicate m (.atExit, true) ++ [(.runCleanup, b)])

/-- What a lawful list of calls looks like when it has led to a stage. -/
def Spelled (w : List (Action × Bool)) : Stage → Prop
  | .collecting => ∃ n, w = List.replicate n (.register, true)
  | .ready => ∃ n m,
    w = List.replicate n (.register, true) ++
      (.runStartup, true) :: List.replicate m (.atExit, true)
  | .startupRunning | .cleanupRunning | .done => Concluded w

/-- What a call that was not refused makes of a registry's stage, by whether it returned a value. -/
def Action.LeadsTo : Action → Bool → Stage → Prop
  | register, b, s => b = true ∧ s = .collecting
  | atExit, b, s => b = true ∧ s = .ready
  | runStartup, true, s => s = .ready
  | runStartup, false, s | runCleanup, _, s => s ≠ .collecting ∧ s ≠ .ready

/-- Nothing is admitted after a call without a value, nor after cleanup. -/
theorem Action.LeadsTo.closed {a : Action} {b : Bool} {s : Stage} (h : a.LeadsTo b s)
    (hb : b = true → a = .runCleanup) : s ≠ .collecting ∧ s ≠ .ready := by
  cases a with
  | register => cases hb h.1
  | atExit => cases hb h.1
  | runStartup =>
    cases b with
    | true => cases hb rfl
    | false => exact h
  | runCleanup => exact h

section
variable {as rest : List Action} {a : Action} {n m : Nat}

theorem handlers_next (h : as ++ a :: rest = List.replicate m .atExit ++ [.runCleanup]) :
    a.stage = .ready ∧ .runCleanup ∉ as := by
  induction m generalizing as with
  | zero =>
    cases as with
    | nil =>
      obtain ⟨rfl, _⟩ := List.cons.inj h
      exact ⟨rfl, List.not_mem_nil⟩
    | cons c as => simp at h
  | succ m ih =>
    cases as with
    | nil =>
      obtain ⟨rfl, _⟩ := List.cons.inj h
      exact ⟨rfl, List.not_mem_nil⟩
    | cons c as =>
      obtain ⟨rfl, htail⟩ := List.cons.inj h
      obtain ⟨hstage, hnone⟩ := ih htail
      exact ⟨hstage, by simpa using hnone⟩

/-- The call that comes next in a life is one for collecting until startup has run, and one for
a ready registry from then until cleanup. -/
theorem life_next (h : as ++ a :: rest = life n m) :
    a.stage = .collecting ∧ .runStartup ∉ as ∨
      a.stage = .ready ∧ .runStartup ∈ as ∧ .runCleanup ∉ as := by
  induction n generalizing as with
  | zero =>
    cases as with
    | nil =>
      obtain ⟨rfl, _⟩ := List.cons.inj h
      exact Or.inl ⟨rfl, List.not_mem_nil⟩
    | cons c as =>
      obtain ⟨rfl, htail⟩ := List.cons.inj h
      obtain ⟨hstage, hnone⟩ := handlers_next htail
      exact Or.inr ⟨hstage, List.mem_cons_self, by simpa using hnone⟩
  | succ n ih =>
    cases as with
    | nil =>
      obtain ⟨rfl, _⟩ := List.cons.inj h
      exact Or.inl ⟨rfl, List.not_mem_nil⟩
    | cons c as =>
      obtain ⟨rfl, htail⟩ := List.cons.inj h
      simpa using ih htail

end

section
variable {w : List (Action × Bool)} {s t : Stage} {a : Action} {b : Bool}

theorem spelled_closed (hs : s ≠ .collecting ∧ s ≠ .ready) : Spelled w s ↔ Concluded w := by
  cases s with
  | collecting => exact absurd rfl hs.1
  | ready => exact absurd rfl hs.2
  | _ => exact Iff.rfl

/-- A call in its stage spells on. -/
theorem Spelled.call (h : Spelled w a.stage) (ht : a.LeadsTo b t) : Spelled (w ++ [(a, b)]) t := by
  cases a with
  | register =>
    obtain ⟨n, rfl⟩ := h
    obtain ⟨rfl, rfl⟩ := ht
    exact ⟨n + 1, List.replicate_succ'.symm⟩
  | atExit =>
    obtain ⟨n, m, rfl⟩ := h
    obtain ⟨rfl, rfl⟩ := ht
    exact ⟨n, m + 1, by simp [List.replicate_succ']⟩
  | runStartup =>
    obtain ⟨n, rfl⟩ := h
    cases b with
    | true =>
      obtain rfl : t = .ready := ht
      exact ⟨n, 0, rfl⟩
    | false => exact (spelled_closed ht).mpr (Or.inl ⟨n, rfl⟩)
  | runCleanup =>
    obtain ⟨n, m, rfl⟩ := h
    exact (spelled_closed ht).mpr (Or.inr ⟨n, m, b, by simp⟩)

/-- Among calls that returned values no startup pass went without one. -/
theorem not_followed (hw : (.runStartup, false) ∉ w) :
    ∀ u v, w = u ++ (.runStartup, false) :: v → v = [] := by
  rintro u v rfl
  simp at hw

theorem Concluded.lawful (h : Concluded w) : Lawful w := by
  rcases h with ⟨n, rfl⟩ | ⟨n, m, b, rfl⟩
  · refine ⟨⟨n, 0, [.runCleanup], by simp [life]⟩, fun u v huv => ?_⟩
    have hparts := (List.append_cons_inj_of_notMem (by simp) (by simp)).mp huv
    exact hparts.2.2.symm
  · exact ⟨⟨n, m, [], by simp [life]⟩, not_followed (by simp)⟩

theorem Spelled.lawful (h : Spelled w s) : Lawful w := by
  cases s with
  | collecting =>
    obtain ⟨n, rfl⟩ := h
    exact ⟨⟨n, 0, .runStartup :: [.runCleanup], by simp [life]⟩, not_followed (by simp)⟩
  | ready =>
    obtain ⟨n, m, rfl⟩ := h
    exact ⟨⟨n, m, [.runCleanup], by simp [life]⟩, not_followed (by simp)⟩
  | _ => exact Concluded.lawful h

theorem Lawful.next (h : Lawful (w ++ [(a, true)])) :
    ∃ n m rest, w.map Prod.fst ++ a :: rest = life n m := by
  obtain ⟨⟨n, m, rest, hlife⟩, _⟩ := h
  exact ⟨n, m, rest, by simpa using hlife⟩

theorem Concluded.not_lawful (h : Concluded w) : ¬Lawful (w ++ [(a, true)]) := by
  intro hlawful
  obtain ⟨n, m, rest, hnext⟩ := hlawful.next
  rcases h with ⟨i, rfl⟩ | ⟨i, j, b, rfl⟩
  · have hlast := hlawful.2 (List.replicate i (.register, true)) [(a, true)] (by simp)
    cases hlast
  · rcases life_next hnext with ⟨_, hup⟩ | ⟨_, _, hdown⟩
    · simp at hup
    · simp at hdown

/-- What may lawfully come next is just what the stage admits. -/
theorem Spelled.lawful_iff (h : Spelled w s) : Lawful (w ++ [(a, true)]) ↔ s = a.stage := by
  constructor
  · intro hlawful
    obtain ⟨n, m, rest, hnext⟩ := hlawful.next
    cases s with
    | collecting =>
      obtain ⟨i, rfl⟩ := h
      rcases life_next hnext with ⟨hstage, _⟩ | ⟨_, hup, _⟩
      · exact hstage.symm
      · simp at hup
    | ready =>
      obtain ⟨i, j, rfl⟩ := h
      rcases life_next hnext with ⟨_, hup⟩ | ⟨hstage, _⟩
      · simp at hup
      · exact hstage.symm
    | _ => exact absurd hlawful (Concluded.not_lawful h)
  · rintro rfl
    obtain ⟨t, ht⟩ : ∃ t, a.LeadsTo true t := by
      cases a with
      | register => exact ⟨.collecting, rfl, rfl⟩
      | atExit => exact ⟨.ready, rfl, rfl⟩
      | runStartup => exact ⟨.ready, rfl⟩
      | runCleanup => exact ⟨.done, by decide, by decide⟩
    exact (h.call ht).lawful

end

namespace Registry

/-- The calls that were not refused, each with whether it returned a value. -/
def accepted (r : Registry) (ops : List Op) : List (Action × Bool) :=
  ((r.history ops).filter fun e => !e.2.answer.refuses).map fun e =>
    (e.1.action, e.2.answer.isValue)

variable {r : Registry}

theorem accepted_append (r : Registry) (ops more : List Op) :
    r.accepted (ops ++ more) = r.accepted ops ++ (r.run ops).accepted more := by
  simp [accepted, history_append]

theorem accepted_of_refused {op : Op} (h : (r.perform op).answer.refuses = true) :
    r.accepted [op] = [] := by
  simp [accepted, h]

theorem accepted_of_taken {op : Op} (h : (r.perform op).answer.refuses = false) :
    r.accepted [op] = [(op.action, (r.perform op).answer.isValue)] := by
  simp [accepted, h]

/-- A call that its stage admits is refused only if its arguments are at fault. -/
theorem vet_wellMade (hs : r.stage = .collecting) (s : Spec) :
    (Op.register s).WellMade r ∧ (∃ c, r.vet s = .ok c) ∨
      ¬(Op.register s).WellMade r ∧ ∃ e, r.vet s = .error e ∧ e.isRefusal = true := by
  simp only [vet, refusal?_of_stage (a := .register) hs]
  cases hc : s.callback with
  | none => exact Or.inr ⟨by simp [Op.WellMade, hc], _, rfl, rfl⟩
  | some c =>
    cases ho : s.role.releases with
    | none => exact Or.inl ⟨by simp [Op.WellMade, hc, ho], c, rfl⟩
    | some o =>
      by_cases hin : o ∈ r.startupOrder
      · exact Or.inl ⟨by simpa [Op.WellMade, hc, ho] using hin, c, if_pos ((r.known_iff o).mpr hin)⟩
      · exact Or.inr ⟨by simpa [Op.WellMade, hc, ho] using hin, _,
          if_neg ((r.known_iff o).not.mpr hin), rfl⟩

theorem unwind_leads (hs : r.stage = .startupRunning) (f : Failure) (startup : PassReport) :
    (∀ report, (r.unwind f startup).answer ≠ .value report) ∧
      (r.unwind f startup).answer.refuses = false ∧ (r.unwind f startup).state.Closed := by
  cases hrule : r.rules.unwindOnStartupFailure with
  | false =>
    rw [unwind_of_abandoned f startup hrule]
    exact ⟨by simp, rfl, by simp [Closed]⟩
  | true =>
    cases ha : (r.drain .unwind).answer with
    | ok report =>
      rw [unwind_of_swept f startup hrule ha]
      exact ⟨by simp, rfl, by simp [Closed]⟩
    | error p =>
      rw [unwind_of_left f startup hrule ha]
      exact ⟨by simp, rfl, by simp [Closed, drain_stage, hs]⟩

/-- A startup pass makes a registry ready, or nothing is admitted after it. -/
theorem runStartup_leads (hs : r.stage = .collecting) :
    (∃ report, r.runStartup.answer = .value report) ∧ r.runStartup.state.stage = .ready ∨
      (∀ report, r.runStartup.answer ≠ .value report) ∧ r.runStartup.answer.refuses = false ∧
        r.runStartup.state.Closed := by
  simp only [runStartup, refusal?_of_stage (a := .runStartup) hs]
  split
  · exact Or.inr ⟨by simp, rfl, by simp [Closed]⟩
  · exact Or.inl ⟨⟨_, rfl⟩, rfl⟩
  · exact Or.inr (unwind_leads rfl _ _)

theorem runCleanup_leads (hs : r.stage = .ready) :
    r.runCleanup.answer.refuses = false ∧ r.runCleanup.state.Closed := by
  simp only [runCleanup, refusal?_of_stage (a := .runCleanup) hs]
  split
  · exact ⟨rfl, by simp [Closed, drain_stage]⟩
  · exact ⟨rfl, by simp [Closed]⟩

/-- A well-made call in its stage is taken, and leads on in the life of the registry. -/
theorem perform_taken {op : Op} (hs : r.stage = op.action.stage) (hw : op.WellMade r) :
    (r.perform op).answer.refuses = false ∧
      op.action.LeadsTo (r.perform op).answer.isValue (r.perform op).state.stage := by
  cases op with
  | register s =>
    have hstage := (register_stage r s).trans hs
    rcases vet_wellMade hs s with ⟨_, c, hv⟩ | ⟨hnot, _⟩
    · have ha : (r.perform (.register s)).answer = .value (.handle r.next) := by
        rw [perform_of_vetted hv]
      rw [ha]
      exact ⟨rfl, rfl, hstage⟩
    · exact absurd hw hnot
  | atExit name c =>
    have hstage := (atExit_stage r name c).trans hs
    have ha : (r.perform (.atExit name c)).answer = .value (.handle r.next) := by
      rw [perform_of_ready hs]
    rw [ha]
    exact ⟨rfl, rfl, hstage⟩
  | runStartup =>
    simp only [perform, Turn.map, Ending.map_refuses, Ending.map_isValue]
    rcases runStartup_leads hs with ⟨⟨report, ha⟩, hready⟩ | ⟨hnone, hrefuses, hclosed⟩
    · rw [ha]
      exact ⟨rfl, hready⟩
    · refine ⟨hrefuses, ?_⟩
      cases ha : r.runStartup.answer with
      | value report => exact absurd ha (hnone report)
      | error e => exact hclosed
      | panic p => exact hclosed
  | runCleanup =>
    simp only [perform, Turn.map, Ending.map_refuses, Ending.map_isValue]
    exact runCleanup_leads hs

/-- Any other call is refused and leaves the stage as it is. -/
theorem perform_turned_down {op : Op} (h : ¬(r.stage = op.action.stage ∧ op.WellMade r)) :
    (r.perform op).answer.refuses = true ∧ (r.perform op).state.stage = r.stage := by
  by_cases hs : r.stage = op.action.stage
  · cases op with
    | register s =>
      refine ⟨?_, register_stage r s⟩
      rcases vet_wellMade hs s with ⟨hw, _⟩ | ⟨_, e, hv, he⟩
      · exact absurd ⟨hs, hw⟩ h
      · rw [perform_of_fault hv]
        exact he
    | atExit name c => exact absurd ⟨hs, trivial⟩ h
    | runStartup => exact absurd ⟨hs, trivial⟩ h
    | runCleanup => exact absurd ⟨hs, trivial⟩ h
  · rw [perform_refused hs]
    exact ⟨rfl, rfl⟩

theorem perform_refuses (r : Registry) (op : Op) :
    (r.perform op).answer.refuses = false ↔ r.stage = op.action.stage ∧ op.WellMade r := by
  constructor
  · intro hfalse
    by_contra h
    simp [(perform_turned_down h).1] at hfalse
  · exact fun ⟨hs, hw⟩ => (perform_taken hs hw).1

/-- What has been spelled so far is spelled on by a call that is taken, and kept by others. -/
theorem spelled_perform {w : List (Action × Bool)} (h : Spelled w r.stage) (op : Op) :
    Spelled (w ++ r.accepted [op]) (r.perform op).state.stage := by
  by_cases hop : r.stage = op.action.stage ∧ op.WellMade r
  · obtain ⟨hs, hw⟩ := hop
    obtain ⟨htaken, hleads⟩ := perform_taken hs hw
    rw [accepted_of_taken htaken]
    exact Spelled.call (hs ▸ h) hleads
  · obtain ⟨hrefused, hstage⟩ := perform_turned_down hop
    rw [accepted_of_refused hrefused, List.append_nil, hstage]
    exact h

theorem spelled_run (rules : HookRules) (ops : List Op) :
    Spelled ((new rules).accepted ops) ((new rules).run ops).stage := by
  induction ops using List.reverseRecOn with
  | nil => exact ⟨0, rfl⟩
  | append_singleton ops op ih =>
    rw [accepted_append, run_append]
    exact spelled_perform ih op

/-- After an abort, a finished cleanup or a panic nothing is admitted. -/
theorem closed_of_ends {op : Op} (h : op.Ends (r.perform op).answer) :
    (r.perform op).state.Closed := by
  have hkept : (r.perform op).answer.refuses = false ∧
      ((r.perform op).answer.isValue = true → op.action = .runCleanup) := by
    cases ha : (r.perform op).answer with
    | value a =>
      rw [ha] at h
      obtain rfl : op = .runCleanup := h
      exact ⟨rfl, fun _ => rfl⟩
    | error e =>
      rw [ha] at h
      cases e with
      | callbackFailure f startup unwind => exact ⟨rfl, by simp [Ending.isValue]⟩
      | _ => exact False.elim h
    | panic p => exact ⟨rfl, by simp [Ending.isValue]⟩
  obtain ⟨hs, hw⟩ := (perform_refuses r op).mp hkept.1
  exact (perform_taken hs hw).2.closed hkept.2

/-- The calls that a registry does not refuse spell the beginning of a life, and every call that
goes on with it is taken. What ends a life leaves nothing but refusals. -/
theorem run_grammar (rules : HookRules) (ops : List Op) :
    let r := (new rules).run ops
    let word := (new rules).accepted ops
    Lawful word ∧
      ∀ op, ((r.perform op).answer.refuses = false ↔
          Lawful (word ++ [(op.action, true)]) ∧ op.WellMade r) ∧
        (op.Ends (r.perform op).answer → ∀ later,
          let s := (r.perform op).state
          s.trail later =
              later.map (fun a => .still s (.error (.invalidPhase a.action s.stage))) ∧
            (journalOf (s.trail later)).calls = []) := by
  intro r word
  have hword : Spelled word r.stage := spelled_run rules ops
  refine ⟨hword.lawful, fun op => ⟨?_, fun hends later => ?_⟩⟩
  · rw [perform_refuses, hword.lawful_iff]
  · have htrail := ((closed_of_ends hends).trail later).2
    refine ⟨htrail, ?_⟩
    rw [htrail, journalOf_calls]
    simp [Turn.still]

/-- Calls that come too early, too late or without a callback are not in the word. -/
example :
    let hook (role : Role) : Spec := ⟨role, none, none, none, some ⟨none, [], .ok⟩⟩
    (new {}).accepted
        [.atExit "early" ⟨none, [], .ok⟩, .register (hook (.releasing 1)),
          .register (hook .startup), .register (hook (.releasing 1)), .register (.ofRole .cleanup),
          .runStartup, .register (hook .cleanup), .atExit "last" ⟨none, [], .ok⟩, .runCleanup,
          .runCleanup] =
      [(.register, true), (.register, true), (.runStartup, true), (.atExit, true),
        (.runCleanup, true)] := by
  decide

end Registry

end Bookend

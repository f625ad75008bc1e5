import Bookend.Proofs.Grammar

namespace Bookend

namespace Op

/-- A hook is to be registered, and there is no callback for it. -/
def LacksCallback : Op → Prop
  | register s => s.callback = none
  | atExit _ _ | runStartup | runCleanup => False

/-- A hook is to be registered that releases what `owner` took. -/
def NamesOwner (owner : Handle) : Op → Prop
  | register s => s.role.releases = some owner
  | atExit _ _ | runStartup | runCleanup => False

end Op

namespace Registry

/-- The calls that are left when all those that are refused are taken out. -/
def taken (r : Registry) (ops : List Op) : List Op :=
  ((r.history ops).filter fun e => !e.2.answer.refuses).map Prod.fst

variable {r : Registry} {op : Op}

theorem vet_lacking {s : Spec} (hs : r.stage = .collecting) (h : s.callback = none) :
    r.vet s = .error .nullCallback := by
  simp only [vet, refusal?_of_stage (a := .register) hs, h]

theorem vet_stray {s : Spec} {o : Handle} (hs : r.stage = .collecting) (h : s.callback ≠ none)
    (ho : s.role.releases = some o) (hstray : o ∉ r.startupOrder) :
    r.vet s = .error (.unknownHandle o) := by
  obtain ⟨c, hc⟩ := Option.ne_none_iff_exists'.mp h
  simp only [vet, refusal?_of_stage (a := .register) hs, hc, ho]
  exact if_neg ((r.known_iff o).not.mpr hstray)

/-- A call that is refused only answers. -/
theorem perform_still (h : (r.perform op).answer.refuses = true) :
    r.perform op = .still r (r.perform op).answer := by
  by_cases hs : r.stage = op.action.stage
  · have hfault : ¬op.WellMade r := fun hw => by simp [(perform_taken hs hw).1] at h
    cases op with
    | register s =>
      rcases vet_wellMade hs s with ⟨hw, _⟩ | ⟨_, e, hv, _⟩
      · exact absurd hw hfault
      · rw [perform_of_fault hv]
        rfl
    | atExit name c => exact absurd trivial hfault
    | runStartup => exact absurd trivial hfault
    | runCleanup => exact absurd trivial hfault
  · rw [perform_refused hs]
    rfl

theorem taken_of_refused (h : (r.perform op).answer.refuses = true) (ops : List Op) :
    r.taken (op :: ops) = r.taken ops := by
  have hstate : (r.perform op).state = r := by rw [perform_still h]; rfl
  simp [taken, h, hstate]

theorem taken_of_taken (h : (r.perform op).answer.refuses = false) (ops : List Op) :
    r.taken (op :: ops) = op :: (r.perform op).state.taken ops := by
  simp [taken, h]

/-- Without the calls that are refused the others come to the same, one by one, and so does
everything that they leave. -/
theorem taken_alike (r : Registry) (ops : List Op) :
    r.history (r.taken ops) = (r.history ops).filter (fun e => !e.2.answer.refuses) ∧
      r.run (r.taken ops) = r.run ops ∧
      journalOf (r.trail (r.taken ops)) = journalOf (r.trail ops) := by
  induction ops generalizing r with
  | nil => exact ⟨rfl, rfl, rfl⟩
  | cons op ops ih =>
    obtain ⟨hhistory, hrun, hjournal⟩ := ih (r.perform op).state
    cases h : (r.perform op).answer.refuses with
    | true =>
      have hstill := perform_still h
      have hstate : (r.perform op).state = r := by rw [hstill]; rfl
      have heffects : (r.perform op).effects = [] := by rw [hstill]; rfl
      rw [hstate] at hhistory hrun hjournal
      rw [taken_of_refused h]
      refine ⟨?_, ?_, ?_⟩
      · simpa [h, hstate] using hhistory
      · simpa [run, hstate] using hrun
      · simpa [trail, journalOf, hstate, heffects] using hjournal
    | false =>
      rw [taken_of_taken h]
      refine ⟨?_, hrun, ?_⟩
      · simp [h, hhistory]
      · simpa [trail, journalOf] using hjournal

/-- A call that is refused leaves no trace. The first of the reasons against it is the one that is
given: its stage, then its callback, then the owner that it names. And any calls come to the same
without those among them that are refused. -/
theorem run_refusals (rules : HookRules) (ops : List Op) :
    let r := (new rules).run ops
    (∀ op,
      let t := r.perform op
      (t.answer.refuses = true → t.state = r ∧ t.effects = []) ∧
      (r.stage ≠ op.action.stage → t.answer = .error (.invalidPhase op.action r.stage)) ∧
      (r.stage = op.action.stage →
        (op.LacksCallback → t.answer = .error .nullCallback) ∧
        (¬op.LacksCallback → ∀ o, op.NamesOwner o → o ∉ r.startupOrder →
          t.answer = .error (.unknownHandle o)) ∧
        (¬op.LacksCallback → (∀ o, op.NamesOwner o → o ∈ r.startupOrder) →
          t.answer.refuses = false))) ∧
      ∀ later,
        let kept := r.taken later
        r.history kept = (r.history later).filter (fun e => !e.2.answer.refuses) ∧
          r.run kept = r.run later ∧ journalOf (r.trail kept) = journalOf (r.trail later) := by
  intro r
  refine ⟨fun op => ⟨fun h => ?_, fun hs => ?_, fun hs => ?_⟩, r.taken_alike⟩
  · rw [perform_still h]
    exact ⟨rfl, rfl⟩
  · rw [perform_refused hs]
    rfl
  · cases op with
    | register s =>
      refine ⟨fun hnone => ?_, fun hsome o ho hstray => ?_, fun hsome howner => ?_⟩
      · rw [perform_of_fault (vet_lacking hs hnone)]
        rfl
      · rw [perform_of_fault (vet_stray hs hsome ho hstray)]
        rfl
      · exact (perform_taken hs ⟨Option.isSome_iff_ne_none.mpr hsome, howner⟩).1
    | _ =>
      -- in its stage any other call is taken
      exact ⟨False.elim, fun _ _ => False.elim, fun _ _ => (perform_taken hs trivial).1⟩

/-- A hook that is refused for two reasons hears the first, and uses up no number. -/
example :
    let hook (role : Role) : Op := .register ⟨role, none, none, none, some ⟨none, [], .ok⟩⟩
    let r := (new {}).run [hook .startup]
    let s := r.run [.atExit "early" ⟨none, [], .ok⟩, .register (.ofRole (.releasing 7)),
      hook (.releasing 7)]
    s = r ∧ (r.perform (.register (.ofRole (.releasing 7)))).answer = .error .nullCallback ∧
      (s.perform (hook (.releasing 1))).answer = .value (.handle 2) := by
  decide

end Registry
end Bookend

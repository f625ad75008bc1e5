import Bookend.Registry.Pass
import Mathlib.Data.List.Basic

namespace Bookend

namespace Journal

@[simp] theorem calls_nil : calls [] = [] := rfl

@[simp] theorem calls_event (e : Event) (j : Journal) : calls (.event e :: j) = j.calls := rfl

@[simp] theorem calls_tally (m : Metric) (p : Phase) (j : Journal) :
    calls (.tally m p :: j) = j.calls := rfl

@[simp] theorem calls_call (h : Handle) (c : Callback) (j : Journal) :
    calls (.call h c :: j) = (h, c) :: j.calls := rfl

@[simp] theorem calls_append (i j : Journal) : calls (i ++ j) = i.calls ++ j.calls :=
  List.filterMap_append

/-- Every panic of a callback that was called is caught. -/
def Calm (catching : Bool) (j : Journal) : Prop :=
  ∀ e ∈ j.calls, ∀ p, e.2.outcome = .panic p → catching = true

theorem Calm.left {b : Bool} {i j : Journal} (h : Calm b (i ++ j)) : i.Calm b :=
  fun e he => h e (by simp [he])

theorem Calm.right {b : Bool} {i j : Journal} (h : Calm b (i ++ j)) : j.Calm b :=
  fun e he => h e (by simp [he])

end Journal

namespace Outcome

theorem under_eq_panic {b : Bool} {o : Outcome} {p : Payload} :
    o.under b = .panic p ↔ b = false ∧ o = .panic p := by
  cases b <;> cases o <;> simp [under, caught]

end Outcome

def Verdict.status : Verdict → Status
  | completed => .completed
  | failed _ => .failed
  | panicked _ => .running

def Verdict.failure? : Verdict → Option Failure
  | failed f => some f
  | _ => none

namespace Hook

/-- The hook after one attempt. -/
def tried (catching : Bool) (k : Hook) : Hook := (k.invoke catching).hook

def verdict (catching : Bool) (k : Hook) : Verdict := (k.invoke catching).verdict

/-- What no pass ever changes of a hook. -/
def plain (k : Hook) : Hook := { k with callback := none, status := .pending }

theorem tried_eq (b : Bool) (k : Hook) :
    k.tried b = { k with callback := none, status := (k.verdict b).status } := by
  cases hc : k.callback with
  | none => simp [tried, verdict, invoke, hc, Verdict.status]
  | some c => cases ho : c.outcome.under b <;> simp [tried, verdict, invoke, hc, ho, Verdict.status]

@[simp] theorem tried_handle (b : Bool) (k : Hook) : (k.tried b).handle = k.handle := by
  rw [tried_eq]

@[simp] theorem tried_plain (b : Bool) (k : Hook) : (k.tried b).plain = k.plain := by
  rw [tried_eq]; rfl

@[simp] theorem tried_status (b : Bool) (k : Hook) : (k.tried b).status = (k.verdict b).status := by
  rw [tried_eq]

@[simp] theorem tried_callback (b : Bool) (k : Hook) : (k.tried b).callback = none := by
  rw [tried_eq]

@[simp] theorem skip_handle (k : Hook) : k.skip.handle = k.handle := rfl

@[simp] theorem skip_plain (k : Hook) : k.skip.plain = k.plain := rfl

@[simp] theorem skip_status (k : Hook) : k.skip.status = .skipped := rfl

/-- Every failure on record is that of the hook. -/
theorem verdict_failure {b : Bool} {k : Hook} {f : Failure} (h : k.verdict b = .failed f) :
    ∃ m, f = .ofHook k m := by
  cases hc : k.callback with
  | none => exact ⟨_, by simpa [verdict, invoke, hc] using h.symm⟩
  | some c =>
    cases ho : c.outcome.under b with
    | ok => simp [verdict, invoke, hc, ho] at h
    | error m => exact ⟨m, by simpa [verdict, invoke, hc, ho] using h.symm⟩
    | panic p => simp [verdict, invoke, hc, ho] at h

theorem verdict_panicked {b : Bool} {k : Hook} {p : Payload} (h : k.verdict b = .panicked p) :
    b = false ∧ ∃ c, k.callback = some c ∧ c.outcome = .panic p := by
  cases hc : k.callback with
  | none => simp [verdict, invoke, hc] at h
  | some c =>
    cases ho : c.outcome.under b with
    | ok => simp [verdict, invoke, hc, ho] at h
    | error m => simp [verdict, invoke, hc, ho] at h
    | panic q =>
      simp only [verdict, invoke, hc, ho, Verdict.panicked.injEq] at h
      subst h
      obtain ⟨hb, hp⟩ := Outcome.under_eq_panic.mp ho
      exact ⟨hb, c, rfl, hp⟩

theorem invoke_calls (b : Bool) (k : Hook) :
    (k.invoke b).effects.calls = (k.callback.map fun c => (k.handle, c)).toList := by
  cases hc : k.callback with
  | none => simp [invoke, hc]
  | some c => cases ho : c.outcome.under b <;> simp [invoke, hc, ho, opening]

end Hook

namespace Pass

/-- The pass `rest` with one attempt at each of `ks` in front. -/
def attempted (catching : Bool) (ks : List Hook) (rest : Pass) : Pass where
  hooks := ks.map (Hook.tried catching) ++ rest.hooks
  report :=
    { phase := rest.report.phase
      invoked := ks.map Hook.handle ++ rest.report.invoked
      completed := (ks.filter (Hook.verdict catching · = .completed)).map Hook.handle ++
        rest.report.completed
      skipped := rest.report.skipped
      failures := ks.filterMap (fun k => (k.verdict catching).failure?) ++ rest.report.failures }
  panic := rest.panic
  effects := ks.flatMap (fun k => (k.invoke catching).effects) ++ rest.effects

@[simp] theorem attempted_nil (b : Bool) (rest : Pass) : attempted b [] rest = rest := rfl

theorem after_attempted (b : Bool) (k : Hook) (ks : List Hook) (rest : Pass) :
    after (k.invoke b) (attempted b ks rest) = attempted b (k :: ks) rest := by
  have hh : (k.invoke b).hook.handle = k.handle := Hook.tried_handle b k
  cases hv : (k.invoke b).verdict <;>
    simp [attempted, after, Hook.tried, Hook.verdict, Verdict.failure?, hv, hh]

theorem attempted_append (b : Bool) (ks ls : List Hook) (rest : Pass) :
    attempted b (ks ++ ls) rest = attempted b ks (attempted b ls rest) := by
  simp [attempted]

theorem attempted_calls (b : Bool) (ks : List Hook) (rest : Pass) :
    (attempted b ks rest).effects.calls =
      ks.filterMap (fun k => k.callback.map fun c => (k.handle, c)) ++ rest.effects.calls := by
  induction ks with
  | nil => rfl
  | cons k ks ih =>
    rw [← after_attempted]
    simp only [after, Journal.calls_append, ih, Hook.invoke_calls]
    cases hc : k.callback <;> simp [hc]

/-- Hooks that still have their callbacks are called one for one. -/
theorem attempted_calls_handles (b : Bool) {ks : List Hook} (rest : Pass)
    (h : ∀ k ∈ ks, k.callback.isSome) :
    (attempted b ks rest).effects.calls.map Prod.fst =
      ks.map Hook.handle ++ rest.effects.calls.map Prod.fst := by
  induction ks with
  | nil => rfl
  | cons k ks ih =>
    obtain ⟨c, hc⟩ := Option.isSome_iff_exists.mp (h k List.mem_cons_self)
    have ht := ih fun a ha => h a (List.mem_cons_of_mem _ ha)
    simp only [attempted_calls, List.map_append] at ht ⊢
    simpa [hc] using ht

theorem attempted_report_of_completed {b : Bool} {ks : List Hook} (rest : Pass)
    (h : ∀ k ∈ ks, k.verdict b = .completed) :
    (attempted b ks rest).report =
      { rest.report with
        invoked := ks.map Hook.handle ++ rest.report.invoked
        completed := ks.map Hook.handle ++ rest.report.completed } := by
  have hall : ks.filter (Hook.verdict b · = .completed) = ks :=
    List.filter_eq_self.mpr fun k hk => by simpa using h k hk
  have hnone : ks.filterMap (fun k => (k.verdict b).failure?) = [] :=
    List.filterMap_eq_nil_iff.mpr fun k hk => by simp [h k hk, Verdict.failure?]
  simp [attempted, hall, hnone]

/-- The report of a startup pass that failed at `k`. -/
theorem attempted_report_of_failed {b : Bool} {pre : List Hook} {k : Hook} {f : Failure}
    (post : List Hook) (h : ∀ a ∈ pre, a.verdict b = .completed) (hk : k.verdict b = .failed f) :
    (attempted b (pre ++ [k]) (.skipping .startup post)).report =
      ⟨.startup, (pre ++ [k]).map Hook.handle, pre.map Hook.handle, post.map Hook.handle, [f]⟩ := by
  rw [attempted_append, attempted_report_of_completed _ h]
  simp [attempted, skipping, PassReport.empty, hk, Verdict.failure?]

/-- A hook whose panic is let out was called with just that callback. -/
theorem attempted_panic {b : Bool} {ks : List Hook} {rest : Pass} {k : Hook} {p : Payload}
    (hk : k ∈ ks) (hv : k.verdict b = .panicked p) :
    ¬(attempted b ks rest).effects.Calm b := by
  obtain ⟨hb, c, hc, ho⟩ := Hook.verdict_panicked hv
  intro hcalm
  have hm : (k.handle, c) ∈ (attempted b ks rest).effects.calls := by
    rw [attempted_calls]
    exact List.mem_append_left _ (List.mem_filterMap.mpr ⟨k, hk, by simp [hc]⟩)
  have := hcalm _ hm p ho
  rw [hb] at this
  cases this

end Pass

/-- What comes first that does not have a property, if anything does. -/
theorem all_or_first (p : α → Prop) (as : List α) :
    (∀ a ∈ as, p a) ∨
      ∃ pre a post, as = pre ++ a :: post ∧ (∀ b ∈ pre, p b) ∧ ¬p a := by
  induction as with
  | nil => exact Or.inl (by simp)
  | cons a as ih =>
    by_cases ha : p a
    · rcases ih with hall | ⟨pre, b, post, rfl, hpre, hb⟩
      · exact Or.inl (List.forall_mem_cons.mpr ⟨ha, hall⟩)
      · exact Or.inr ⟨a :: pre, b, post, rfl, List.forall_mem_cons.mpr ⟨ha, hpre⟩, hb⟩
    · exact Or.inr ⟨[], a, as, rfl, by simp, ha⟩

section
variable {b : Bool} {pre ks : List Hook} {k : Hook}

theorem startAll_append (h : ∀ a ∈ pre, a.verdict b = .completed) :
    startAll b (pre ++ ks) = .attempted b pre (startAll b ks) := by
  induction pre with
  | nil => rfl
  | cons a pre ih =>
    obtain ⟨ha, hpre⟩ := List.forall_mem_cons.mp h
    rw [← Pass.after_attempted, ← ih hpre, List.cons_append, startAll]
    simp only [Hook.verdict] at ha
    simp only [ha]

theorem startAll_of_completed (h : ∀ k ∈ ks, k.verdict b = .completed) :
    startAll b ks = .attempted b ks (.skipping .startup []) := by
  have ht : startAll b (ks ++ []) = _ := startAll_append h
  simpa [startAll] using ht

theorem startAll_of_failed {f : Failure} (post : List Hook)
    (h : ∀ a ∈ pre, a.verdict b = .completed) (hk : k.verdict b = .failed f) :
    startAll b (pre ++ k :: post) = .attempted b (pre ++ [k]) (.skipping .startup post) := by
  rw [startAll_append h, Pass.attempted_append, ← Pass.after_attempted, startAll]
  simp only [Hook.verdict] at hk
  simp only [hk, Pass.attempted_nil]

theorem startAll_of_panicked {p : Payload} (post : List Hook)
    (h : ∀ a ∈ pre, a.verdict b = .completed) (hk : k.verdict b = .panicked p) :
    startAll b (pre ++ k :: post) = .attempted b (pre ++ [k]) (.cut .startup p post) := by
  rw [startAll_append h, Pass.attempted_append, ← Pass.after_attempted, startAll]
  simp only [Hook.verdict] at hk
  simp only [hk, Pass.attempted_nil]

theorem drainAll_append (h : ∀ a ∈ pre, ∀ p, a.verdict b ≠ .panicked p) :
    drainAll b (pre ++ ks) = .attempted b pre (drainAll b ks) := by
  induction pre with
  | nil => rfl
  | cons a pre ih =>
    obtain ⟨ha, hpre⟩ := List.forall_mem_cons.mp h
    rw [← Pass.after_attempted, ← ih hpre, List.cons_append, drainAll]
    simp only [Hook.verdict] at ha
    cases hv : (a.invoke b).verdict with
    | completed => rfl
    | failed f => rfl
    | panicked p => exact absurd hv (ha p)

theorem drainAll_of_calm (h : ∀ k ∈ ks, ∀ p, k.verdict b ≠ .panicked p) :
    drainAll b ks = .attempted b ks (.skipping .cleanup []) := by
  have ht : drainAll b (ks ++ []) = _ := drainAll_append h
  simpa [drainAll] using ht

theorem drainAll_of_panicked {p : Payload} (post : List Hook)
    (h : ∀ a ∈ pre, ∀ p, a.verdict b ≠ .panicked p) (hk : k.verdict b = .panicked p) :
    drainAll b (pre ++ k :: post) = .attempted b (pre ++ [k]) (.cut .cleanup p post) := by
  rw [drainAll_append h, Pass.attempted_append, ← Pass.after_attempted, drainAll]
  simp only [Hook.verdict] at hk
  simp only [hk, Pass.attempted_nil]

end

/-- A startup pass gets through, ends at the first hook that fails, or is left at the first
one that panics. -/
theorem startAll_cases (b : Bool) (ks : List Hook) :
    (∀ k ∈ ks, k.verdict b = .completed) ∨
      ∃ pre k post, ks = pre ++ k :: post ∧ (∀ a ∈ pre, a.verdict b = .completed) ∧
        ((∃ f, k.verdict b = .failed f) ∨ ∃ p, k.verdict b = .panicked p) := by
  rcases all_or_first (fun k : Hook => k.verdict b = .completed) ks with
    hall | ⟨pre, k, post, hks, hpre, hk⟩
  · exact Or.inl hall
  · refine Or.inr ⟨pre, k, post, hks, hpre, ?_⟩
    cases hv : k.verdict b with
    | completed => exact absurd hv hk
    | failed f => exact Or.inl ⟨f, rfl⟩
    | panicked p => exact Or.inr ⟨p, rfl⟩

/-- A cleanup pass gets through, whatever fails, or is left at the first hook that panics. -/
theorem drainAll_cases (b : Bool) (ks : List Hook) :
    (∀ k ∈ ks, ∀ p, k.verdict b ≠ .panicked p) ∨
      ∃ pre k post p, ks = pre ++ k :: post ∧ (∀ a ∈ pre, ∀ p, a.verdict b ≠ .panicked p) ∧
        k.verdict b = .panicked p := by
  rcases all_or_first (fun k : Hook => ∀ p, k.verdict b ≠ .panicked p) ks with
    hall | ⟨pre, k, post, hks, hpre, hk⟩
  · exact Or.inl hall
  · simp only [not_forall, not_not] at hk
    obtain ⟨p, hp⟩ := hk
    exact Or.inr ⟨pre, k, post, p, hks, hpre, hp⟩

/-- Nothing was let out of a pass whose calls were calm. -/
theorem drainAll_calm {b : Bool} {ks : List Hook} (h : (drainAll b ks).effects.Calm b) :
    ∀ k ∈ ks, ∀ p, k.verdict b ≠ .panicked p := by
  rcases drainAll_cases b ks with hall | ⟨pre, k, post, p, rfl, hpre, hk⟩
  · exact hall
  · rw [drainAll_of_panicked post hpre hk] at h
    exact absurd h (Pass.attempted_panic (by simp) hk)

end Bookend

import Bookend.Proofs.Entries
import Mathlib.Data.List.InsertIdx

namespace Bookend

section
variable {α : Type} {p : α → Bool} {before : α → α → Bool} {a : α} {as pre post : List α}

/-- Halving comes to the border, from any two places around it. -/
theorem searchBetween_eq (hpre : ∀ b ∈ pre, p b = true) (hpost : ∀ b ∈ post, p b = false)
    (lo hi : Nat) (hlo : lo ≤ pre.length) (hin : pre.length ≤ hi)
    (hhi : hi ≤ (pre ++ post).length) : searchBetween p (pre ++ post) lo hi = pre.length := by
  have hmid (i : Nat) (hi : i < (pre ++ post).length) :
      (pre ++ post)[i]?.any p = decide (i < pre.length) := by
    by_cases hlt : i < pre.length
    · rw [List.getElem?_append_left hlt, List.getElem?_eq_getElem hlt]
      simp [hlt, hpre]
    · have hlast : i - pre.length < post.length := by
        rw [List.length_append] at hi
        omega
      rw [List.getElem?_append_right (Nat.le_of_not_lt hlt), List.getElem?_eq_getElem hlast]
      simp [hlt, hpost]
  induction h : hi - lo using Nat.strong_induction_on generalizing lo hi with
  | _ n ih =>
    rw [searchBetween]
    by_cases hlt : lo < hi
    · rw [if_pos hlt]
      dsimp only
      rw [hmid (lo + (hi - lo) / 2) (by omega)]
      by_cases hleft : lo + (hi - lo) / 2 < pre.length
      · rw [if_pos (decide_eq_true hleft)]
        exact ih _ (by omega) _ hi hleft hin hhi rfl
      · rw [if_neg (by simpa using hleft)]
        exact ih _ (by omega) lo _ hlo (Nat.le_of_not_lt hleft) (by omega) rfl
    · rw [if_neg hlt]
      omega

theorem partitionPoint_eq (hpre : ∀ b ∈ pre, p b = true) (hpost : ∀ b ∈ post, p b = false) :
    partitionPoint p (pre ++ post) = pre.length :=
  searchBetween_eq hpre hpost 0 _ (Nat.zero_le _) (by simp) (Nat.le_refl _)

theorem insertBehind_append (hpre : ∀ b ∈ pre, before b a = true)
    (hpost : ∀ b ∈ post, before b a = false) :
    insertBehind before a (pre ++ post) = pre ++ a :: post := by
  induction pre with
  | nil =>
    cases post with
    | nil => rfl
    | cons b post => simp [insertBehind, hpost b List.mem_cons_self]
  | cons b pre ih =>
    obtain ⟨hb, hpre⟩ := List.forall_mem_cons.mp hpre
    simp only [List.cons_append, insertBehind, hb, if_true, ih hpre]

theorem insertIdx_length (pre post : List α) (a : α) :
    (pre ++ post).insertIdx pre.length a = pre ++ a :: post := by
  induction pre with
  | nil => rfl
  | cons b pre ih => simpa using ih

/-- A list in which nothing with `p` stands behind anything without falls in two. -/
theorem exists_border (h : as.Pairwise fun b c => p c = true → p b = true) :
    ∃ pre post, as = pre ++ post ∧ (∀ b ∈ pre, p b = true) ∧ ∀ b ∈ post, p b = false := by
  induction as with
  | nil => exact ⟨[], [], rfl, by simp, by simp⟩
  | cons b as ih =>
    obtain ⟨hfirst, hrest⟩ := List.pairwise_cons.mp h
    cases hb : p b with
    | true =>
      obtain ⟨pre, post, rfl, hpre, hpost⟩ := ih hrest
      exact ⟨b :: pre, post, rfl, List.forall_mem_cons.mpr ⟨hb, hpre⟩, hpost⟩
    | false =>
      refine ⟨[], b :: as, rfl, by simp, List.forall_mem_cons.mpr ⟨hb, fun c hc => ?_⟩⟩
      cases hpc : p c with
      | true => simp [hfirst c hc hpc] at hb
      | false => rfl

/-- Going along the list and halving it lead to one place. -/
theorem insertBehind_eq_insertIdx
    (h : as.Pairwise fun b c => before c a = true → before b a = true) :
    insertBehind before a as = as.insertIdx (partitionPoint (before · a) as) a := by
  obtain ⟨pre, post, rfl, hpre, hpost⟩ := exists_border h
  rw [insertBehind_append hpre hpost, partitionPoint_eq hpre hpost, insertIdx_length]

end

namespace Registry
variable {r : Registry} {es : List Entry} {f : Hook → Hook}

/-- The startup table is the startup hooks that were registered, by priority and age, as far as
`f` shows. -/
theorem Holds.startup_map (h : r.Holds es) (t : r.Tables) (hf : ∀ k, (f k).plain = k.plain)
    (hp : (r.hooks.map f).Perm (es.map fun e => f e.hook)) :
    r.startup.map f =
      (ascending Entry.orderKey (es.filter (·.phase = .startup))).map fun e => f e.hook := by
  have hphase (k : Hook) : (f k).phase = k.phase := by
    change (f k).plain.phase = k.plain.phase
    rw [hf]
  have hkey (k : Hook) : (f k).orderKey = k.orderKey := by
    change (f k).plain.orderKey = k.plain.orderKey
    rw [hf]
  have hstartup : (r.startup.map f).Perm
      ((es.filter (·.phase = .startup)).map fun e => f e.hook) := by
    have hfilter := hp.filter (·.phase = .startup)
    simp only [List.filter_map, Function.comp_def, hphase, t.filter_phase .startup] at hfilter
    exact hfilter
  have hsorted : (r.startup.map f).Pairwise fun a b => a.orderKey ≤ b.orderKey := by
    refine List.pairwise_map.mpr (t.runningOrder.imp fun hle => ?_)
    rw [hkey, hkey]
    exact hle
  have hinj : ∀ a ∈ (es.filter (·.phase = .startup)).map (fun e => f e.hook),
      ∀ b ∈ (es.filter (·.phase = .startup)).map (fun e => f e.hook),
        a.orderKey = b.orderKey → a = b := by
    intro a ha b hb he
    obtain ⟨d, hd, rfl⟩ := List.mem_map.mp ha
    obtain ⟨e, hd', rfl⟩ := List.mem_map.mp hb
    rw [hkey, hkey] at he
    have hhandle : d.handle = e.handle := congrArg (fun q => (ofLex q).2) he
    rw [h.entry_inj t (List.mem_of_mem_filter hd) (List.mem_of_mem_filter hd') hhandle]
  rw [eq_ascending Hook.orderKey hstartup hsorted hinj, ← map_ascending]
  simp only [hkey]
  rfl

theorem Holds.startupOrder (h : r.Holds es) (t : r.Tables) :
    r.startupOrder =
      (ascending Entry.orderKey (es.filter (·.phase = .startup))).map Entry.handle := by
  have hself := h.startup_map (f := Hook.plain) t (fun _ => rfl) h.same
  have hplain := congrArg (List.map Hook.handle) hself
  simp only [List.map_map] at hplain
  exact hplain

/-- Before any pass the startup table is what was registered, hook for hook. -/
theorem Holds.startup_eq (h : r.Holds es) (t : r.Tables)
    (hp : ∀ k ∈ r.hooks, k.status = .pending) :
    r.startup =
      (ascending Entry.orderKey (es.filter (·.phase = .startup))).map Entry.hook := by
  have hself := h.startup_map (f := id) t (fun _ => rfl) (by simpa using h.hooks_perm t hp)
  simpa using hself

theorem Holds.orderKey_lt (h : r.Holds es) (t : r.Tables) :
    (ascending Entry.orderKey (es.filter (·.phase = .startup))).Pairwise
      fun a b => a.orderKey < b.orderKey := by
  have hnodup : ((es.filter (·.phase = .startup)).map Entry.handle).Nodup :=
    (h.nodup t).sublist (List.filter_sublist.map _)
  have hapart := ((ascending_perm Entry.orderKey _).map Entry.handle).nodup_iff.mpr hnodup
  refine (List.pairwise_map.mp hapart).imp₂ ?_ (ascending_pairwise Entry.orderKey _)
  intro a b hne hle
  refine lt_of_le_of_ne hle fun he => hne ?_
  exact congrArg (fun q => (ofLex q).2) he

section
variable {line pre post : List Entry} {e : Entry}

theorem callsOf_hooks (es : List Entry) :
    callsOf (es.map Entry.hook) = es.filterMap Entry.call? := by
  rw [callsOf, List.filterMap_map]
  rfl

theorem verdict_completed_iff (b : Bool) (e : Entry) (hc : e.spec.callback.isSome) :
    e.hook.verdict b = .completed ↔ e.outcome? = some .ok := by
  obtain ⟨c, hc⟩ := Option.isSome_iff_exists.mp hc
  have hheld : e.hook.callback = some c := hc
  cases b <;> cases ho : c.outcome <;>
    simp [Hook.verdict, Hook.invoke, hheld, ho, Outcome.under, Outcome.caught, Entry.outcome?, hc]

/-- Every startup hook is called when all come back well. -/
theorem runStartup_calls_all (hs : r.stage = .collecting) (htable : r.startup = line.map Entry.hook)
    (hc : ∀ e ∈ line, e.spec.callback.isSome) (hall : ∀ e ∈ line, e.outcome? = some .ok) :
    r.runStartup.effects.calls = line.filterMap Entry.call? := by
  have hcompleted : ∀ k ∈ r.startup, k.verdict r.rules.catchPanics = .completed := by
    intro k hk
    rw [htable] at hk
    obtain ⟨e, he, rfl⟩ := List.mem_map.mp hk
    exact (verdict_completed_iff _ e (hc e he)).mpr (hall e he)
  rw [← callsOf_hooks, ← htable, runStartup_of_completed hs hcompleted]
  simp [Pass.attempted_callsOf, Pass.skipping]

/-- Up to the first that does not come back well, and after it cleanup hooks only. -/
theorem Tables.runStartup_calls_first (t : r.Tables) (hs : r.stage = .collecting)
    (htable : r.startup = (pre ++ e :: post).map Entry.hook)
    (hc : ∀ a ∈ pre ++ e :: post, a.spec.callback.isSome) (hpre : ∀ a ∈ pre, a.outcome? = some .ok)
    (he : e.outcome? ≠ some .ok) :
    ∃ rest, r.runStartup.effects.calls = (pre ++ [e]).filterMap Entry.call? ++ rest ∧
      ∀ c ∈ rest, c.1 ∉ r.startupOrder := by
  have hstops : r.StopsAt (pre.map Entry.hook) e.hook (post.map Entry.hook) := by
    refine ⟨by simp [htable], fun k hk => ?_⟩
    obtain ⟨a, ha, rfl⟩ := List.mem_map.mp hk
    exact (verdict_completed_iff _ a (hc a (by simp [ha]))).mpr (hpre a ha)
  have hfirst : callsOf (pre.map Entry.hook ++ [e.hook]) = (pre ++ [e]).filterMap Entry.call? := by
    rw [← callsOf_hooks, List.map_append]
    rfl
  rw [(t.runStartup_tries hs).1.calls]
  cases hv : e.hook.verdict r.rules.catchPanics with
  | completed => exact absurd ((verdict_completed_iff _ e (hc e (by simp))).mp hv) he
  | panicked p =>
    rw [startupAttempts_of_panicked hstops hv, hfirst]
    exact ⟨[], (List.append_nil _).symm, by simp⟩
  | failed f =>
    rw [startupAttempts_of_failed hstops hv, callsOf_append, hfirst]
    refine ⟨_, rfl, fun c hin hup => ?_⟩
    obtain ⟨k, hk, hh, _⟩ := mem_callsOf.mp hin
    have hdown : k ∈ r.cleanup ++ r.atExit := mem_of_unwindAttempts (r := r.failedAt _ _ _) hk
    exact t.startup_disjoint hup (hh ▸ List.mem_map_of_mem hdown)

end

/-- Startup hooks are kept in the order of their priorities, equal ones as they came: wherever
halving the table leads is where a new hook goes. A startup pass calls them in that order, all of
them, or those up to the first that does not come back well. -/
theorem run_startup_order (rules : HookRules) (ops : List Op) :
    let r := (new rules).run ops
    let line := ascending Entry.orderKey
      (((new rules).registered ops).filter (·.phase = .startup))
    line.Pairwise (fun a b => a.orderKey < b.orderKey) ∧
      r.startupOrder = line.map Entry.handle ∧
      (∀ e ∈ line, e.spec.callback.isSome) ∧
      (∀ k, insertBehind runsBefore k r.startup =
        r.startup.insertIdx (partitionPoint (runsBefore · k) r.startup) k) ∧
      (r.stage = .collecting →
        let calls := r.runStartup.effects.calls
        ((∀ e ∈ line, e.outcome? = some .ok) → calls = line.filterMap Entry.call?) ∧
          ∀ pre e post, line = pre ++ e :: post → (∀ a ∈ pre, a.outcome? = some .ok) →
            e.outcome? ≠ some .ok →
            ∃ rest, calls = (pre ++ [e]).filterMap Entry.call? ++ rest ∧
              ∀ c ∈ rest, c.1 ∉ r.startupOrder) := by
  intro r line
  have sound : r.Sound := sound_run rules ops
  have holds : r.Holds ((new rules).registered ops) := holds_run rules ops
  have hcallbacks : ∀ e ∈ line, e.spec.callback.isSome := by
    intro e he
    have hin := (ascending_perm Entry.orderKey _).mem_iff.mp he
    exact registered_callbacks rules ops e (List.mem_of_mem_filter hin)
  have hranks : r.startup.Pairwise fun a b => a.rank ≤ b.rank := by
    refine sound.runningOrder.imp fun hle => ?_
    rcases Hook.orderKey_le.mp hle with hlt | ⟨he, _⟩
    · exact le_of_lt hlt
    · exact le_of_eq he
  refine ⟨holds.orderKey_lt sound.toTables, holds.startupOrder sound.toTables, hcallbacks,
    fun k => insertBehind_eq_insertIdx (hranks.imp fun hle => ?_), fun hs => ?_⟩
  · simp only [runsBefore, decide_eq_true_eq]
    exact hle.trans
  · have htable : r.startup = line.map Entry.hook :=
      holds.startup_eq sound.toTables (sound.situation.of_collecting hs).1
    refine ⟨runStartup_calls_all hs htable hcallbacks, fun pre e post hline hpre he => ?_⟩
    rw [hline] at htable hcallbacks
    exact sound.toTables.runStartup_calls_first hs htable hcallbacks hpre he

def unevenHook (role : Role) (priority : Option Int) (o : Outcome) : Spec :=
  ⟨role, none, none, priority, some ⟨none, [], o⟩⟩

/-- Startup hooks of the lowest and the highest priority and two at zero, the later of which fails;
between them cleanup hooks, a hook without a callback and a handler that comes too soon. -/
def unevenOps : List Op :=
  [.register (unevenHook .startup (some 2147483647) .ok), .register (unevenHook .cleanup none .ok),
    .register (unevenHook .startup none .ok), .register (.ofRole .startup),
    .register (unevenHook .startup (some (-2147483648)) .ok), .atExit "early" ⟨none, [], .ok⟩,
    .register (unevenHook .startup (some 0) (.error "no")),
    .register (unevenHook (.releasing 3) none .ok)]

theorem run_startup_order_uneven :
    let r := (new {}).run unevenOps
    r.startupOrder = [4, 3, 5, 1] ∧
      ∃ rest, r.runStartup.effects.calls =
          [(4, ⟨none, [], .ok⟩), (3, ⟨none, [], .ok⟩), (5, ⟨none, [], .error "no"⟩)] ++ rest ∧
        ∀ c ∈ rest, c.1 ∉ r.startupOrder := by
  obtain ⟨_, horder, _, _, hrun⟩ := run_startup_order {} unevenOps
  have hline : ascending Entry.orderKey
        (((new {}).registered unevenOps).filter (·.phase = .startup)) =
      [⟨4, unevenHook .startup (some (-2147483648)) .ok⟩, ⟨3, unevenHook .startup none .ok⟩] ++
        ⟨5, unevenHook .startup (some 0) (.error "no")⟩ ::
          [⟨1, unevenHook .startup (some 2147483647) .ok⟩] := by decide
  rw [hline] at horder
  exact ⟨horder, (hrun (by decide)).2 _ _ _ hline (by decide) (by decide)⟩

end Registry
end Bookend

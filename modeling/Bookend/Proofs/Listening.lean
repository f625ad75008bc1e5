import Bookend.Proofs.Interruption
import Bookend.Shutdown.Receiving
import Mathlib.Data.List.DropRight
import Mathlib.Data.List.Range

namespace Bookend

/-- What waits for a receiver to which `rs` were sent since it last heard something. -/
def Inbox.ofList (rs : List Reason) : Inbox := rs.foldl (fun i r => i.put r) .empty

namespace Channel

/-- A channel has ends of two kinds. -/
inductive End
  | sender
  | receiver
  deriving DecidableEq, Repr

/-- A call with its reply. -/
abbrev Call := Op × Reply

/-- The channel that a list of calls leaves. -/
def run (c : Channel) (ops : List Op) : Channel := ops.foldl (fun c op => (c.perform op).state) c

def log (c : Channel) (ops : List Op) : List Call := ops.zip ((c.trail ops).map Turn.answer)

namespace End

/-- A new channel has one sender. -/
def first : End → List Nat
  | sender => [0]
  | receiver => []

/-- The end that a call made. -/
def made? : End → Call → Option Nat
  | sender, (_, .sender tx) => some tx
  | receiver, (_, .receiver rx) => some rx
  | _, _ => none

/-- The end that a call dropped. -/
def dropped? : End → Call → Option Nat
  | sender, (.dropSender tx, .dropped) => some tx
  | receiver, (.dropReceiver rx, .dropped) => some rx
  | _, _ => none

/-- The ends of one kind that were made and not dropped. -/
def standing (e : End) (log : List Call) : List Nat :=
  (e.first ++ log.filterMap e.made?).filter (· ∉ log.filterMap e.dropped?)

end End

namespace Call

def sent? : Call → Option Reason
  | (_, .sent r) => some r
  | _ => none

/-- The call made the receiver, or the receiver heard a reason by it. -/
def refreshes (rx : Nat) : Call → Bool
  | (_, .receiver n) => n = rx
  | (.poll n, .heard (some _)) => n = rx
  | _ => false

/-- The call as the only receiver would make it in the place of `rx`. What other receivers do falls
away. -/
def alone? (rx : Nat) : Call → Option Op
  | (.subscribe tx, .receiver n) => if n = rx then some (.subscribe tx) else none
  | (.subscribe _, _) => none
  | (.poll n, _) => if n = rx then some (.poll 0) else none
  | (.dropReceiver n, _) => if n = rx then some (.dropReceiver 0) else none
  | (op, _) => some op

end Call

/-- The reasons sent since the receiver was made or last heard one, whichever is later. -/
def unread (rx : Nat) (log : List Call) : List Reason :=
  (log.rtakeWhile fun e => !e.refreshes rx).filterMap Call.sent?

/-- The calls that are left when those of all receivers but `rx` are taken out. -/
def alone (rx : Nat) (log : List Call) : List Op := log.filterMap (Call.alone? rx)

/-- Which ends of a kind are still there, of all that there ever were. -/
def flags (c : Channel) : End → List Bool
  | .sender => c.senders
  | .receiver => c.receivers.map Option.isSome

/-- The places of what is true. -/
def places (bs : List Bool) : List Nat := (List.range bs.length).filter fun n => bs[n]?.getD false

/-- What a call does to the ends of one kind: it makes one, it drops one, or neither. -/
inductive Turnover (e : End) (c : Channel) (call : Call) (d : Channel) : Prop
  | made (made : e.made? call = some (c.flags e).length) (kept : e.dropped? call = none)
      (flags : d.flags e = c.flags e ++ [true])
  | dropped (n : Nat) (unmade : e.made? call = none) (dropped : e.dropped? call = some n)
      (known : n < (c.flags e).length) (flags : d.flags e = (c.flags e).set n false)
  | same (unmade : e.made? call = none) (kept : e.dropped? call = none)
      (flags : d.flags e = c.flags e)

/-- A channel holds what the log of all calls tells of it. -/
structure Logged (c : Channel) (log : List Call) : Prop where
  standing : ∀ e : End, e.standing log = places (c.flags e)
  known : ∀ e : End, ∀ n ∈ log.filterMap e.dropped?, n < (c.flags e).length
  inboxes : ∀ rx i, c.inbox? rx = some i → i = .ofList (unread rx log)

/-- The channel with one of its receivers and no other. -/
def only (c : Channel) (rx : Nat) : Channel := { c with receivers := (c.receivers[rx]?).toList }

section
variable {c : Channel} {rx n : Nat} {op : Op} {call : Call} {log : List Call} {bs : List Bool}

theorem places_append (bs : List Bool) (b : Bool) :
    places (bs ++ [b]) = places bs ++ if b then [bs.length] else [] := by
  have hold : (List.range bs.length).filter (fun n => (bs ++ [b])[n]?.getD false) = places bs := by
    refine List.filter_congr fun n hn => ?_
    rw [List.getElem?_append_left (List.mem_range.mp hn)]
  rw [places, List.length_append, List.length_singleton, List.range_succ, List.filter_append, hold]
  cases b <;> simp

theorem mem_places : n ∈ places bs ↔ bs[n]?.getD false = true := by
  rw [places, List.mem_filter, List.mem_range, and_iff_right_iff_imp]
  intro h
  by_contra hlt
  simp [List.getElem?_eq_none (Nat.le_of_not_lt hlt)] at h

theorem places_set_false (bs : List Bool) (n : Nat) :
    places (bs.set n false) = (places bs).filter (· ≠ n) := by
  rw [places, places, List.filter_filter, List.length_set]
  refine List.filter_congr fun m _ => ?_
  by_cases h : n = m
  · subst h
    by_cases hlt : n < bs.length <;> simp [hlt]
  · simp [List.getElem?_set_ne h, Ne.symm h]

theorem length_places (bs : List Bool) : (places bs).length = bs.count true := by
  induction bs using List.reverseRecOn with
  | nil => rfl
  | append_singleton bs b ih =>
    rw [places_append, List.length_append, ih, List.count_append]
    cases b <;> rfl

theorem receiverCount_eq (c : Channel) : c.receiverCount = (places (c.flags .receiver)).length := by
  rw [length_places, flags, List.count, List.countP_map]
  exact List.countP_congr fun i _ => by simp

theorem mem_receivers : rx ∈ places (c.flags .receiver) ↔ ∃ i, c.inbox? rx = some i := by
  rw [mem_places, flags, List.getElem?_map, inbox?]
  rcases c.receivers[rx]? with _ | _ | i <;> simp

theorem isOpen_iff : c.isOpen = true ↔ places (c.flags .sender) ≠ [] := by
  rw [← List.length_pos_iff, length_places, List.count_pos_iff, isOpen, flags,
    List.contains_iff_mem]

/-- What each call does when the end that it goes through is there. -/
theorem perform_admitted (c : Channel) (op : Op) : c.admits op = true →
    c.perform op =
      match op with
      | .subscribe _ => ⟨.receiver c.receivers.length, c.subscribe.state, []⟩
      | .clone _ => ⟨.sender c.senders.length, c.addSender.state, []⟩
      | .dropSender tx => .still (c.dropSender tx) .dropped
      | .dropReceiver rx => .still (c.dropReceiver rx) .dropped
      | .trigger _ r => ⟨.sent r, c.send r, (c.trigger r).effects⟩
      | .count _ => .still c (.count c.receiverCount)
      | .poll rx => ⟨.heard (c.poll rx).answer, (c.poll rx).state, (c.poll rx).effects⟩ := by
  intro h
  unfold perform
  rw [if_pos h]
  rfl

theorem perform_stray (h : c.admits op = false) : c.perform op = .still c .noSuchEnd := by
  unfold perform
  rw [if_neg (by simp [h])]

@[simp] theorem run_nil (c : Channel) : c.run [] = c := rfl

theorem run_single (c : Channel) (op : Op) : c.run [op] = (c.perform op).state := rfl

theorem run_append (c : Channel) (ops more : List Op) :
    c.run (ops ++ more) = (c.run ops).run more :=
  List.foldl_append

theorem run_concat (c : Channel) (ops : List Op) (op : Op) :
    c.run (ops ++ [op]) = ((c.run ops).perform op).state :=
  c.run_append ops [op]

theorem log_concat (c : Channel) (ops : List Op) (op : Op) :
    c.log (ops ++ [op]) = c.log ops ++ [(op, ((c.run ops).perform op).answer)] := by
  induction ops generalizing c with
  | nil => rfl
  | cons first ops ih =>
    have htail := ih (c.perform first).state
    simp only [log, trail, List.cons_append, List.map_cons, List.zip_cons_cons] at htail ⊢
    rw [htail]
    rfl

theorem receivers_of_inbox {i : Inbox} (h : c.inbox? rx = some i) :
    c.receivers[rx]? = some (some i) := by
  unfold inbox? at h
  cases hr : c.receivers[rx]? with
  | none => simp [hr] at h
  | some o => simpa [hr] using h

/-- Another inbox in the place of one that is there. -/
theorem set_inbox {i : Inbox} (h : c.inbox? rx = some i) (j : Inbox) :
    ({ c with receivers := c.receivers.set rx (some j) } : Channel).flags .receiver =
        c.flags .receiver ∧
      ∀ n, ({ c with receivers := c.receivers.set rx (some j) } : Channel).inbox? n =
        if n = rx then some j else c.inbox? n := by
  have hr := receivers_of_inbox h
  obtain ⟨hlt, hget⟩ := List.getElem?_eq_some_iff.mp hr
  constructor
  · refine List.ext_getElem? fun n => ?_
    by_cases hn : rx = n
    · subst hn
      simp [flags, hlt, hget]
    · simp [flags, List.getElem?_set_ne hn]
  · intro n
    by_cases hn : n = rx
    · subst hn
      simp [inbox?, hlt]
    · simp [inbox?, List.getElem?_set_ne (Ne.symm hn), hn]

theorem poll_empty (h : c.inbox? rx = some .empty) :
    c.poll rx = .still c (if c.isOpen then none else some .requested) := by
  simp only [poll, h]

theorem poll_holds {r : Reason} {missed : Nat} (h : c.inbox? rx = some (.holds r missed)) :
    c.poll rx = ⟨some r, { c with receivers := c.receivers.set rx (some .empty) },
      if missed = 0 then [] else [.event (.shutdownLagged missed)]⟩ := by
  simp only [poll, h]

theorem poll_flags (c : Channel) (rx : Nat) (e : End) : (c.poll rx).state.flags e = c.flags e := by
  cases h : c.inbox? rx with
  | none => simp only [poll, h, Turn.still]
  | some i =>
    cases i with
    | empty =>
      rw [poll_empty h]
      rfl
    | holds r missed =>
      rw [poll_holds h]
      cases e with
      | sender => rfl
      | receiver => exact (set_inbox h .empty).1

/-- Every call makes one end, drops one, or leaves all ends as they are. -/
theorem perform_turnover (c : Channel) (op : Op) (e : End) :
    Turnover e c (op, (c.perform op).answer) (c.perform op).state := by
  cases h : c.admits op with
  | false =>
    rw [perform_stray h]
    cases e <;> cases op <;> exact .same rfl rfl rfl
  | true =>
    rw [perform_admitted c op h]
    cases op with
    | subscribe tx =>
      cases e with
      | sender => exact .same rfl rfl rfl
      | receiver => exact .made (by simp [End.made?, flags]) rfl (by simp [flags, subscribe])
    | clone tx =>
      cases e with
      | sender => exact .made rfl rfl rfl
      | receiver => exact .same rfl rfl rfl
    | dropSender tx =>
      cases e with
      | sender =>
        have hlt : tx < c.senders.length := by
          by_contra hge
          simp [admits, hasSender, List.getElem?_eq_none (Nat.le_of_not_lt hge)] at h
        exact .dropped tx rfl rfl hlt rfl
      | receiver => exact .same rfl rfl rfl
    | dropReceiver rx =>
      cases e with
      | sender => exact .same rfl rfl rfl
      | receiver =>
        have hlt : rx < c.receivers.length := by
          by_contra hge
          simp [admits, inbox?, List.getElem?_eq_none (Nat.le_of_not_lt hge)] at h
        refine .dropped rx rfl rfl (by simpa [flags] using hlt) ?_
        simp [flags, Turn.still, Channel.dropReceiver, List.map_set]
    | trigger tx r =>
      cases e with
      | sender => exact .same rfl rfl rfl
      | receiver => exact .same rfl rfl (by simp [flags, send, Function.comp_def])
    | count tx => cases e <;> exact .same rfl rfl rfl
    | poll rx =>
      cases e with
      | sender => exact .same rfl rfl (poll_flags c rx .sender)
      | receiver => exact .same rfl rfl (poll_flags c rx .receiver)

theorem subscribe_other (h : c.receivers.length ≠ rx) :
    c.subscribe.state.receivers[rx]? = c.receivers[rx]? := by
  simp only [subscribe, List.getElem?_append]
  by_cases hlt : rx < c.receivers.length
  · rw [if_pos hlt]
  · have hbehind : 1 ≤ rx - c.receivers.length := by omega
    rw [if_neg hlt, List.getElem?_eq_none (Nat.le_of_not_lt hlt), List.getElem?_eq_none hbehind]

theorem inbox_of_dropped {i : Inbox} (h : (c.dropReceiver n).inbox? rx = some i) :
    c.inbox? rx = some i := by
  by_cases hn : n = rx
  · subst hn
    by_cases hlt : n < c.receivers.length <;> simp [dropReceiver, inbox?, hlt] at h
  · simpa [dropReceiver, inbox?, List.getElem?_set_ne hn] using h

theorem ofList_concat (rs : List Reason) (r : Reason) :
    Inbox.ofList (rs ++ [r]) = (Inbox.ofList rs).put r := by
  simp [Inbox.ofList]

/-- The newest waits, and the others are counted. -/
theorem ofList_newest (rs : List Reason) (r : Reason) :
    Inbox.ofList (rs ++ [r]) = .holds r rs.length := by
  induction rs using List.reverseRecOn generalizing r with
  | nil => rfl
  | append_singleton rs s ih =>
    rw [ofList_concat, ih, Inbox.put, List.length_append]
    rfl

theorem unread_refreshed (h : call.refreshes rx = true) : unread rx (log ++ [call]) = [] := by
  simp [unread, h]

theorem unread_sent (h : call.refreshes rx = false) :
    unread rx (log ++ [call]) = unread rx log ++ call.sent?.toList := by
  cases hs : call.sent? <;> simp [unread, h, hs]

theorem unread_idle (h : call.refreshes rx = false) (hs : call.sent? = none) :
    unread rx (log ++ [call]) = unread rx log := by
  rw [unread_sent h, hs, Option.toList_none, List.append_nil]

section
variable (h : Logged c log)
include h

/-- What a poll leaves in the inboxes: the receiver that heard a reason has nothing unread. -/
theorem Logged.poll_inboxes (n : Nat) {rx : Nat} {i : Inbox}
    (hi : (c.poll n).state.inbox? rx = some i) :
    i = .ofList (unread rx (log ++ [(.poll n, .heard (c.poll n).answer)])) := by
  have hother (hn : rx ≠ n) (a : Option Reason) (hi : c.inbox? rx = some i) :
      i = .ofList (unread rx (log ++ [(.poll n, .heard a)])) := by
    rw [unread_idle (by cases a <;> simp [Call.refreshes, Ne.symm hn]) rfl]
    exact h.inboxes rx i hi
  cases hc : c.inbox? n with
  | none =>
    have hstill : c.poll n = .still c none := by simp only [poll, hc]
    rw [hstill] at hi ⊢
    refine hother ?_ _ hi
    rintro rfl
    cases hc.symm.trans hi
  | some j =>
    cases j with
    | empty =>
      rw [poll_empty hc] at hi ⊢
      by_cases hn : rx = n
      · subst hn
        obtain rfl : i = .empty := Option.some.inj (hi.symm.trans hc)
        have hold := h.inboxes rx _ hc
        cases hopen : c.isOpen with
        | true =>
          simp only [Turn.still, if_true]
          rw [unread_idle rfl rfl]
          exact hold
        | false =>
          rw [unread_refreshed (by simp [Turn.still, Call.refreshes])]
          rfl
      · exact hother hn _ hi
    | holds r missed =>
      rw [poll_holds hc] at hi ⊢
      rw [(set_inbox hc .empty).2 rx] at hi
      by_cases hn : rx = n
      · subst hn
        rw [if_pos rfl] at hi
        rw [unread_refreshed (by simp [Call.refreshes])]
        exact (Option.some.inj hi).symm
      · rw [if_neg hn] at hi
        exact hother hn _ hi

theorem Logged.perform_inboxes (op : Op) {rx : Nat} {i : Inbox}
    (hi : (c.perform op).state.inbox? rx = some i) :
    i = .ofList (unread rx (log ++ [(op, (c.perform op).answer)])) := by
  cases hadmits : c.admits op with
  | false =>
    rw [perform_stray hadmits] at hi ⊢
    rw [unread_idle (by cases op <;> rfl) rfl]
    exact h.inboxes rx i hi
  | true =>
    rw [perform_admitted c op hadmits] at hi ⊢
    cases op with
    | subscribe tx =>
      by_cases hn : c.receivers.length = rx
      · rw [unread_refreshed (by simp [Call.refreshes, hn])]
        subst hn
        exact (Option.some.inj (hi.symm.trans c.subscribe_inbox?)).symm ▸ rfl
      · rw [unread_idle (by simp [Call.refreshes, hn]) rfl]
        exact h.inboxes rx i ((congrArg Option.join (subscribe_other hn)).symm.trans hi)
    | clone tx =>
      rw [unread_idle rfl rfl]
      exact h.inboxes rx i hi
    | dropSender tx =>
      rw [unread_idle rfl rfl]
      exact h.inboxes rx i hi
    | dropReceiver n =>
      rw [unread_idle rfl rfl]
      exact h.inboxes rx i (inbox_of_dropped hi)
    | trigger tx r =>
      have hput : (c.inbox? rx).map (Inbox.put r) = some i := (c.send_inbox? r rx).symm.trans hi
      obtain ⟨j, hj, rfl⟩ := Option.map_eq_some_iff.mp hput
      rw [unread_sent rfl, h.inboxes rx j hj]
      exact (ofList_concat _ r).symm
    | count tx =>
      rw [unread_idle rfl rfl]
      exact h.inboxes rx i hi
    | poll n => exact h.poll_inboxes n hi

end

section
variable {d : Channel} {e : End}

theorem End.standing_concat (e : End) (log : List Call) (call : Call) :
    e.standing (log ++ [call]) =
      (e.first ++ log.filterMap e.made? ++ (e.made? call).toList).filter
        (· ∉ log.filterMap e.dropped? ++ (e.dropped? call).toList) := by
  have hlast (f : Call → Option Nat) : [call].filterMap f = (f call).toList := by
    cases hf : f call <;> simp [hf]
  rw [standing, List.filterMap_append, List.filterMap_append, hlast, hlast, List.append_assoc]

/-- The log keeps up with the ends that come and go. -/
theorem Turnover.standing (h : Turnover e c call d) (hlog : e.standing log = places (c.flags e))
    (hknown : ∀ n ∈ log.filterMap e.dropped?, n < (c.flags e).length) :
    e.standing (log ++ [call]) = places (d.flags e) := by
  rw [End.standing_concat]
  cases h with
  | made made kept flags =>
    -- the number is new, so no end of that number was ever dropped
    have hnew : (c.flags e).length ∉ log.filterMap e.dropped? :=
      fun hm => Nat.lt_irrefl _ (hknown _ hm)
    rw [made, kept, Option.toList_none, List.append_nil, flags, places_append, ← hlog,
      List.filter_append]
    refine congrArg (e.standing log ++ ·) ?_
    simpa using hnew
  | dropped n unmade dropped known flags =>
    rw [unmade, dropped, Option.toList_none, List.append_nil, flags, places_set_false, ← hlog,
      End.standing, List.filter_filter]
    refine List.filter_congr fun m _ => ?_
    rw [Bool.eq_iff_iff, decide_eq_true_iff]
    simp [and_comm]
  | same unmade kept flags =>
    rw [unmade, kept, Option.toList_none, List.append_nil, List.append_nil, flags, ← hlog]
    rfl

theorem Turnover.known (h : Turnover e c call d)
    (hknown : ∀ n ∈ log.filterMap e.dropped?, n < (c.flags e).length) :
    ∀ n ∈ (log ++ [call]).filterMap e.dropped?, n < (d.flags e).length := by
  intro n hn
  rw [List.filterMap_append] at hn
  cases h with
  | made made kept flags =>
    have hold : n < (c.flags e).length := hknown n (by simpa [kept] using hn)
    rw [flags, List.length_append]
    exact Nat.lt_add_right _ hold
  | dropped m unmade dropped known flags =>
    rw [flags, List.length_set]
    rcases List.mem_append.mp hn with hn | hn
    · exact hknown n hn
    · obtain rfl : n = m := by simpa [dropped] using hn
      exact known
  | same unmade kept flags =>
    rw [flags]
    exact hknown n (by simpa [kept] using hn)

theorem Logged.perform (h : Logged c log) (op : Op) :
    Logged (c.perform op).state (log ++ [(op, (c.perform op).answer)]) where
  standing e := (perform_turnover c op e).standing (h.standing e) (h.known e)
  known e := (perform_turnover c op e).known (h.known e)
  inboxes _ _ hi := h.perform_inboxes op hi

theorem logged_new : Logged new [] where
  standing e := by cases e <;> rfl
  known e := by simp
  inboxes rx i hi := by simp [new, inbox?] at hi

theorem logged_run (ops : List Op) : Logged (new.run ops) (new.log ops) := by
  induction ops using List.reverseRecOn with
  | nil => exact logged_new
  | append_singleton ops op ih =>
    rw [run_concat, log_concat]
    exact ih.perform op

end

theorem only_inbox? (c : Channel) (rx : Nat) : (c.only rx).inbox? 0 = c.inbox? rx := by
  unfold only inbox?
  cases c.receivers[rx]? <;> rfl

/-- A receiver hears the same with no other receiver there. -/
theorem only_poll (c : Channel) (rx : Nat) :
    (c.only rx).poll 0 = ⟨(c.poll rx).answer, (c.poll rx).state.only rx, (c.poll rx).effects⟩ := by
  have hsame := c.only_inbox? rx
  cases hc : c.inbox? rx with
  | none =>
    rw [hc] at hsame
    simp only [poll, hc, hsame]
    rfl
  | some i =>
    rw [hc] at hsame
    cases i with
    | empty =>
      rw [poll_empty hsame, poll_empty hc]
      rfl
    | holds r missed =>
      have hr := receivers_of_inbox hc
      obtain ⟨hlt, _⟩ := List.getElem?_eq_some_iff.mp hr
      rw [poll_holds hsame, poll_holds hc]
      simp [only, hlt]

/-- What another receiver does, a receiver does not notice. -/
theorem set_only (c : Channel) (h : n ≠ rx) (o : Option Inbox) :
    ({ c with receivers := c.receivers.set n o } : Channel).only rx = c.only rx := by
  simp [only, List.getElem?_set_ne h]

theorem poll_only (c : Channel) (h : n ≠ rx) : (c.poll n).state.only rx = c.only rx := by
  unfold poll
  split
  · rfl
  · rfl
  · exact set_only c h _

/-- The calls that concern a receiver come to the same on a channel that has no other. -/
theorem only_perform (c : Channel) (rx : Nat) (op : Op) :
    (c.only rx).run (Call.alone? rx (op, (c.perform op).answer)).toList =
      (c.perform op).state.only rx := by
  cases h : c.admits op with
  | false =>
    have hstray {op : Op} (h : (c.only rx).admits op = false) :
        (c.only rx).run [op] = c.only rx := by
      rw [run_single, perform_stray h]
      rfl
    rw [perform_stray h]
    cases op with
    | subscribe tx => rfl
    | dropReceiver n =>
      by_cases hn : n = rx
      · subst hn
        have hself : (c.only n).run [.dropReceiver 0] = c.only n :=
          hstray (by rwa [admits, only_inbox?])
        simpa [Call.alone?, Turn.still] using hself
      · simp [Call.alone?, hn, Turn.still, run]
    | poll n =>
      by_cases hn : n = rx
      · subst hn
        have hself : (c.only n).run [.poll 0] = c.only n := hstray (by rwa [admits, only_inbox?])
        simpa [Call.alone?, Turn.still] using hself
      · simp [Call.alone?, hn, Turn.still, run]
    | _ => exact hstray h
  | true =>
    rw [perform_admitted c op h]
    cases op with
    | subscribe tx =>
      by_cases hn : c.receivers.length = rx
      · subst hn
        simp only [Call.alone?, if_true, Option.toList_some, run_single]
        rw [perform_admitted (c.only _) (.subscribe tx) h]
        simp [only, subscribe]
      · simp only [Call.alone?, hn, if_false, Option.toList_none, run_nil]
        simp only [only, subscribe_other hn]
        rfl
    | dropReceiver n =>
      by_cases hn : n = rx
      · subst hn
        simp only [Call.alone?, if_true, Option.toList_some, run_single]
        rw [perform_admitted _ (.dropReceiver 0) (by rwa [admits, only_inbox?])]
        obtain ⟨i, hi⟩ := Option.isSome_iff_exists.mp h
        obtain ⟨hlt, _⟩ := List.getElem?_eq_some_iff.mp (receivers_of_inbox hi)
        simp [only, dropReceiver, Turn.still, hlt]
      · simp only [Call.alone?, hn, if_false, Option.toList_none, run_nil]
        exact (set_only c hn none).symm
    | poll n =>
      by_cases hn : n = rx
      · subst hn
        simp only [Call.alone?, if_true, Option.toList_some, run_single]
        rw [perform_admitted _ (.poll 0) (by rwa [admits, only_inbox?])]
        exact congrArg Turn.state (c.only_poll n)
      · simp only [Call.alone?, hn, if_false, Option.toList_none, run_nil]
        exact (poll_only c hn).symm
    | trigger tx r =>
      simp only [Call.alone?, Option.toList_some, run_single]
      rw [perform_admitted (c.only rx) (.trigger tx r) h]
      simp only [only, send, List.getElem?_map]
      cases c.receivers[rx]? <;> rfl
    | clone tx => exact congrArg Turn.state (perform_admitted (c.only rx) (.clone tx) h)
    | dropSender tx => exact congrArg Turn.state (perform_admitted (c.only rx) (.dropSender tx) h)
    | count tx => exact congrArg Turn.state (perform_admitted (c.only rx) (.count tx) h)

theorem alone_run (rx : Nat) (ops : List Op) :
    new.run (alone rx (new.log ops)) = (new.run ops).only rx := by
  induction ops using List.reverseRecOn with
  | nil => rfl
  | append_singleton ops op ih =>
    have hlast : alone rx (new.log (ops ++ [op])) = alone rx (new.log ops) ++
        (Call.alone? rx (op, ((new.run ops).perform op).answer)).toList := by
      rw [log_concat]
      cases ha : Call.alone? rx (op, ((new.run ops).perform op).answer) <;> simp [alone, ha]
    rw [hlast, run_append, ih, run_concat]
    exact only_perform _ rx op

/-- Receiving again and again comes to one look into the inbox. -/
theorem listen_eq_poll (c : Channel) (rx : Nat) : c.listen rx = c.poll rx := by
  cases hc : c.inbox? rx with
  | none => simp only [listen, poll, hc]
  | some i =>
    cases i with
    | empty =>
      have hself : c.receivers.set rx (some .empty) = c.receivers := by
        obtain ⟨hlt, hget⟩ := List.getElem?_eq_some_iff.mp (receivers_of_inbox hc)
        rw [← hget, List.set_getElem_self]
      rw [poll_empty hc]
      simp only [listen, hc, Inbox.listen_empty, Turn.still, hself]
    | holds r missed =>
      rw [poll_holds hc]
      cases missed with
      | zero => simp only [listen, hc, Inbox.listen_newest, Turn.still, if_true]
      | succ missed => simp [listen, hc, Inbox.listen_lagged]

theorem perform_poll {i : Inbox} (h : c.inbox? rx = some i) :
    c.perform (.poll rx) = ⟨.heard (c.poll rx).answer, (c.poll rx).state, (c.poll rx).effects⟩ :=
  perform_admitted c (.poll rx) (by simp [admits, h])

end

/-- A receiver hears the newest of the reasons sent since it last heard one, and a lag tells how
many it has missed; with nothing new it waits, or reads a channel that lost all senders as a request
to stop. No other receiver matters to it, and the channel counts its receivers. -/
theorem poll_newest_unread (ops : List Op) :
    let c := new.run ops
    let log := new.log ops
    c.receiverCount = (End.receiver.standing log).length ∧
      (∀ tx ∈ End.sender.standing log,
        (c.perform (.count tx)).answer = .count (End.receiver.standing log).length) ∧
      ∀ rx ∈ End.receiver.standing log,
        let t := c.perform (.poll rx)
        let us := unread rx log
        (∀ r, us.getLast? = some r →
          t.answer = .heard (some r) ∧
            t.effects = if 1 < us.length then [.event (.shutdownLagged (us.length - 1))] else []) ∧
        (us = [] →
          t.answer = .heard (if End.sender.standing log = [] then some .requested else none) ∧
            t.effects = []) ∧
        (t.answer = .heard (c.listen rx).answer ∧ t.state = (c.listen rx).state ∧
          t.effects = (c.listen rx).effects) ∧
        let u := (new.run (alone rx log)).perform (.poll 0)
        u.answer = t.answer ∧ u.effects = t.effects := by
  intro c log
  have logged : Logged c log := logged_run ops
  have hcount : c.receiverCount = (End.receiver.standing log).length := by
    rw [receiverCount_eq, ← logged.standing]
  refine ⟨hcount, fun tx htx => ?_, fun rx hrx => ?_⟩
  · rw [logged.standing, mem_places] at htx
    rw [perform_admitted c (.count tx) htx, ← hcount]
    rfl
  · rw [logged.standing, mem_receivers] at hrx
    obtain ⟨i, hi⟩ := hrx
    have hunread := logged.inboxes rx i hi
    rw [perform_poll hi]
    refine ⟨fun r hr => ?_, fun hnone => ?_, ?_, ?_⟩
    · obtain ⟨rs, hrs⟩ := List.getLast?_eq_some_iff.mp hr
      rw [hrs, ofList_newest] at hunread
      subst hunread
      rw [poll_holds hi, hrs]
      cases rs with
      | nil => exact ⟨rfl, rfl⟩
      | cons s rs => exact ⟨rfl, by simp⟩
    · rw [hnone] at hunread
      subst hunread
      rw [poll_empty hi, logged.standing]
      refine ⟨congrArg Reply.heard ?_, rfl⟩
      cases hopen : c.isOpen with
      | true =>
        rw [if_neg (isOpen_iff.mp hopen), if_pos rfl]
        rfl
      | false =>
        have hclosed : places (c.flags .sender) = [] := by
          by_contra hsome
          simp [isOpen_iff.mpr hsome] at hopen
        rw [if_pos hclosed]
        rfl
    · rw [listen_eq_poll]
      exact ⟨rfl, rfl, rfl⟩
    · rw [alone_run, perform_poll (c.only_inbox? rx ▸ hi), only_poll]
      exact ⟨rfl, rfl⟩

/-- A first receiver that misses two reasons, a second one that comes late and goes, and a channel
that is closed before the first listens again. -/
def overtakenOps : List Op :=
  [.subscribe 0, .clone 0, .trigger 1 .interrupt, .poll 0, .trigger 0 .interrupt, .subscribe 1,
    .trigger 1 .requested, .trigger 0 .terminate, .poll 1, .dropReceiver 1, .dropSender 0,
    .dropSender 1]

theorem poll_newest_unread_overtaken :
    0 ∈ End.receiver.standing (new.log overtakenOps) ∧
      unread 0 (new.log overtakenOps) = [.interrupt, .requested, .terminate] ∧
      ((new.run overtakenOps).perform (.poll 0)).answer = .heard (some .terminate) ∧
      ((new.run overtakenOps).perform (.poll 0)).effects = [.event (.shutdownLagged 2)] := by
  have hlive : 0 ∈ End.receiver.standing (new.log overtakenOps) := by decide
  have hunread : unread 0 (new.log overtakenOps) = [.interrupt, .requested, .terminate] := by
    decide
  obtain ⟨hheard, _⟩ := (poll_newest_unread overtakenOps).2.2 0 hlive
  rw [hunread] at hheard
  obtain ⟨hanswer, heffects⟩ := hheard .terminate rfl
  exact ⟨hlive, hunread, hanswer, heffects⟩

end Channel
end Bookend

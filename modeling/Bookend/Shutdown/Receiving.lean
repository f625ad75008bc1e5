import Bookend.Shutdown.Channel

namespace Bookend

/-- What one receive brings. -/
inductive Delivery
  | reason (r : Reason)
  | lagged (missed : Nat)
  | waiting
  | closed
  deriving DecidableEq, Repr

namespace Inbox

def missed : Inbox → Nat
  | empty => 0
  | holds _ missed => missed

/-- A receiver that has missed reasons is told how many, once, before it is given the newest.
Without senders nothing more can come, but what waits is still delivered. -/
def receive (isOpen : Bool) : Inbox → Delivery × Inbox
  | empty => (if isOpen then .waiting else .closed, empty)
  | holds newest 0 => (.reason newest, empty)
  | holds newest missed => (.lagged missed, holds newest 0)

theorem missed_of_lagged {isOpen : Bool} {i j : Inbox} {n : Nat}
    (h : i.receive isOpen = (.lagged n, j)) : j.missed < i.missed := by
  cases i with
  | empty => cases isOpen <;> simp [receive] at h
  | holds newest missed =>
    cases missed with
    | zero => simp [receive] at h
    | succ m =>
      obtain ⟨_, rfl⟩ := Prod.mk.inj h
      exact Nat.succ_pos m

/-- Receives again after every lag, until there is a reason or none is to be had for now. -/
def listen (isOpen : Bool) (i : Inbox) : Turn Inbox (Option Reason) :=
  match _h : i.receive isOpen with
  | (.reason r, j) => .still j (some r)
  | (.waiting, j) => .still j none
  | (.closed, j) => .still j (some .requested)
  | (.lagged n, j) =>
    let t := j.listen isOpen
    { t with effects := .event (.shutdownLagged n) :: t.effects }
termination_by i.missed
decreasing_by exact missed_of_lagged _h

theorem listen_empty (isOpen : Bool) :
    empty.listen isOpen = .still .empty (if isOpen then none else some .requested) := by
  rw [listen]
  cases isOpen <;> rfl

theorem listen_newest (isOpen : Bool) (r : Reason) :
    (holds r 0).listen isOpen = .still .empty (some r) := by
  rw [listen]
  rfl

/-- One lag is told, and the next receive brings the newest reason. -/
theorem listen_lagged (isOpen : Bool) (r : Reason) (missed : Nat) :
    (holds r (missed + 1)).listen isOpen =
      ⟨some r, .empty, [.event (.shutdownLagged (missed + 1))]⟩ := by
  have hnext := listen_newest isOpen r
  rw [listen]
  change Turn.mk ((holds r 0).listen isOpen).answer _ _ = _
  rw [hnext]
  rfl

end Inbox

namespace Channel

/-- Listens to the inbox of a receiver, if the receiver is there. -/
def listen (c : Channel) (rx : Nat) : Turn Channel (Option Reason) :=
  match c.inbox? rx with
  | none => .still c none
  | some i =>
    let t := i.listen c.isOpen
    ⟨t.answer, { c with receivers := c.receivers.set rx (some t.state) }, t.effects⟩

end Channel
end Bookend

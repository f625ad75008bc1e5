import Bookend.Journal

namespace Bookend

/-- What waits for a receiver: nothing, or the newest reason with the number of
older ones that it pushed out unread. -/
inductive Inbox
  | empty
  | holds (newest : Reason) (missed : Nat)
  deriving DecidableEq, Repr

namespace Inbox

def put (r : Reason) : Inbox → Inbox
  | empty => holds r 0
  | holds _ missed => holds r (missed + 1)

end Inbox

/-- Senders and receivers by number. A number is never used again: a sender that is
gone is false, a receiver that is gone is none. -/
structure Channel where
  senders : List Bool
  receivers : List (Option Inbox)
  deriving DecidableEq, Repr

namespace Channel

def new : Channel := ⟨[true], []⟩

def isOpen (c : Channel) : Bool := c.senders.contains true

def hasSender (c : Channel) (tx : Nat) : Bool := c.senders[tx]?.getD false

def inbox? (c : Channel) (rx : Nat) : Option Inbox := c.receivers[rx]?.join

def receiverCount (c : Channel) : Nat := c.receivers.countP Option.isSome

/-- The new receiver sees only what is sent from now on. -/
def subscribe (c : Channel) : Turn Channel Nat :=
  ⟨c.receivers.length, { c with receivers := c.receivers ++ [some .empty] }, []⟩

def addSender (c : Channel) : Turn Channel Nat :=
  ⟨c.senders.length, { c with senders := c.senders ++ [true] }, []⟩

def dropSender (c : Channel) (tx : Nat) : Channel := { c with senders := c.senders.set tx false }

def dropReceiver (c : Channel) (rx : Nat) : Channel :=
  { c with receivers := c.receivers.set rx none }

/-- Every receiver that is there gets the reason; with none it is lost. -/
def send (c : Channel) (r : Reason) : Channel :=
  { c with receivers := c.receivers.map (Option.map (Inbox.put r)) }

def sendAll (c : Channel) (rs : List Reason) : Channel := rs.foldl send c

def trigger (c : Channel) (r : Reason) : Turn Channel Unit :=
  ⟨(), c.send r, [.event (.shutdownTriggered r c.receiverCount)]⟩

/-- One look into an inbox. A channel without senders can bring nothing new, which
reads as a request to stop; otherwise an empty inbox means waiting. -/
def poll (c : Channel) (rx : Nat) : Turn Channel (Option Reason) :=
  match c.inbox? rx with
  | none => .still c none
  | some .empty => .still c (if c.isOpen then none else some .requested)
  | some (.holds r missed) =>
    ⟨some r, { c with receivers := c.receivers.set rx (some .empty) },
      if missed = 0 then [] else [.event (.shutdownLagged missed)]⟩

/-- A call on the channel, through one of its ends. -/
inductive Op
  | subscribe (tx : Nat)
  | clone (tx : Nat)
  | dropSender (tx : Nat)
  | dropReceiver (rx : Nat)
  | trigger (tx : Nat) (reason : Reason)
  | count (tx : Nat)
  | poll (rx : Nat)
  deriving DecidableEq, Repr

inductive Reply
  | receiver (rx : Nat)
  | sender (tx : Nat)
  | dropped
  | sent (reason : Reason)
  | count (receivers : Nat)
  | heard (reason : Option Reason)
  | noSuchEnd
  deriving DecidableEq, Repr

/-- The end that a call goes through is still there. -/
def admits (c : Channel) : Op → Bool
  | .subscribe tx | .clone tx | .dropSender tx | .trigger tx _ | .count tx => c.hasSender tx
  | .dropReceiver rx | .poll rx => (c.inbox? rx).isSome

def perform (c : Channel) (op : Op) : Turn Channel Reply :=
  if c.admits op then
    match op with
    | .subscribe _ => ⟨.receiver c.subscribe.answer, c.subscribe.state, []⟩
    | .clone _ => ⟨.sender c.addSender.answer, c.addSender.state, []⟩
    | .dropSender tx => .still (c.dropSender tx) .dropped
    | .dropReceiver rx => .still (c.dropReceiver rx) .dropped
    | .trigger _ r => ⟨.sent r, (c.trigger r).state, (c.trigger r).effects⟩
    | .count _ => .still c (.count c.receiverCount)
    | .poll rx => ⟨.heard (c.poll rx).answer, (c.poll rx).state, (c.poll rx).effects⟩
  else .still c .noSuchEnd

def trail (c : Channel) : List Op → List (Turn Channel Reply)
  | [] => []
  | op :: ops =>
    let t := c.perform op
    t :: t.state.trail ops

end Channel
end Bookend

import Bookend.Event
import Bookend.Text.Digits

namespace Bookend

/-- The least grave level that is let through; when off, none is. -/
inductive Threshold
  | off
  | least (level : Level)
  deriving DecidableEq, Repr

namespace Threshold

def text : Threshold → String
  | off => "off"
  | least l => l.text

def passes : Threshold → Level → Bool
  | off, _ => false
  | least l, m => l.rank ≤ m.rank

/-- How many levels are let through. -/
def breadth : Threshold → Nat
  | off => 0
  | least l => 5 - l.rank

def wider (a b : Threshold) : Threshold := if a.breadth < b.breadth then b else a

/-- From 0 for none to 5 for all. -/
def ofNumber? : Nat → Option Threshold
  | 0 => some off
  | 1 => some (least .error)
  | 2 => some (least .warn)
  | 3 => some (least .info)
  | 4 => some (least .debug)
  | 5 => some (least .trace)
  | _ => none

def ofName? (s : String) : Option Threshold :=
  if s.toLower == "off" then some off else (Level.ofName? s).map least

/-- A threshold is given by number or by name. -/
def ofText? (s : String) : Option Threshold :=
  match Text.natural? s.toList with
  | some n => ofNumber? n
  | none => ofName? s

end Threshold
end Bookend

namespace Bookend

/-- A number of the 64-bit binary format. The numbers on either side of zero are counted by
the steps from one to the next; the last step is the one to infinity. -/
inductive Double
  | number (negative : Bool) (place : Nat)
  | nan
  deriving DecidableEq, Repr

namespace Double

/-- How many numbers share one power of two. -/
def binade : Nat := Nat.pow 2 52

def infinity : Nat := 2047 * binade

/-- The size of a number, as a multiple of the least one above zero. For infinity it is the
size that the next step would have if the format went on. -/
def size (place : Nat) : Nat :=
  if place < binade then place else (binade + place % binade) * Nat.pow 2 (place / binade - 1)

/-- Minus zero is where zero is, and what is no number comes last. -/
def key : Double → Int
  | number negative place => if negative then -(place : Int) else place
  | nan => infinity + 1

instance : Ord Double := ⟨fun a b => compare a.key b.key⟩

end Double
end Bookend

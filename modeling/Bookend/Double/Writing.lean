import Bookend.Double.Basic

namespace Bookend.Double

/-- A decimal: a whole number times a power of ten. -/
structure Decimal where
  digits : Nat
  exponent : Int
  deriving DecidableEq, Repr

/-- Whether a decimal is read as the number at this place: it lies no further than halfway
to the numbers on either side, where halfway counts for every other number. Sizes are
compared as multiples of half the least number above zero. -/
def readsAs (place : Nat) (d : Decimal) : Bool :=
  let num := d.digits * Nat.pow 10 d.exponent.toNat * Nat.pow 2 1075
  let den := Nat.pow 10 (-d.exponent).toNat
  let low := (size (place - 1) + size place) * den
  let high := (size place + size (place + 1)) * den
  low < num && num < high || place % 2 = 0 && (num = low || num = high)

/-- The decimals with this exponent on either side of the number: the first is not above it.
The flag tells whether the second is at least as near. -/
def around (place : Nat) (exponent : Int) : Decimal × Decimal × Bool :=
  let num := Nat.pow 10 exponent.toNat * Nat.pow 2 1074
  let value := size place * Nat.pow 10 (-exponent).toNat
  let below := value / num
  (⟨below, exponent⟩, ⟨below + 1, exponent⟩, (2 * below + 1) * num ≤ 2 * value)

/-- The nearer of the two if both are read as the number, or the one that is. -/
def fitting? (place : Nat) (exponent : Int) : Option Decimal :=
  let (below, above, nearAbove) := around place exponent
  match readsAs place below, readsAs place above with
  | true, true => some (if nearAbove then above else below)
  | true, false => some below
  | false, true => some above
  | false, false => none

/-- The exponent of the least power of ten above the number. -/
def magnitude (place : Nat) : Int :=
  (Nat.toDigits 10 (size place * Nat.pow 10 400 / Nat.pow 2 1074)).length - 400

/-- The number itself, to its last digit. -/
def exact (place : Nat) : Decimal := ⟨size place * Nat.pow 5 1074, -1074⟩

/-- The fewest digits that are read as the number; seventeen are always enough. -/
def shortest (place : Nat) : Decimal :=
  ((List.range 18).findSome? fun n : Nat => fitting? place (magnitude place - n)).getD (exact place)

/-- In full, with a point only if there are digits behind it. -/
def Decimal.text (d : Decimal) : String :=
  let ds := Nat.toDigits 10 d.digits
  if 0 ≤ d.exponent then String.ofList (ds ++ List.replicate d.exponent.toNat '0')
  else
    let behind := (-d.exponent).toNat
    let padded := List.replicate (behind + 1 - ds.length) '0' ++ ds
    let front := padded.length - behind
    String.ofList (padded.take front ++ '.' :: padded.drop front)

def text : Double → String
  | nan => "NaN"
  | number negative place =>
    let unsigned :=
      if place = 0 then "0" else if infinity ≤ place then "inf" else (shortest place).text
    if negative then "-" ++ unsigned else unsigned

end Bookend.Double

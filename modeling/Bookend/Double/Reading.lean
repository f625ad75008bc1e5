import Bookend.Double.Basic
import Bookend.Text.Digits

namespace Bookend.Double

/-- The whole number next to a fraction; of two that are equally near the even one. -/
def nearest (num den : Nat) : Nat :=
  let q := num / den
  let r := num % den
  if 2 * r < den || 2 * r = den && q % 2 = 0 then q else q + 1

/-- The place of the number next to a fraction of the least number above zero. -/
def placeOf (num den : Nat) : Nat :=
  let scale := (num / den).log2 - 52
  min infinity (scale * binade + nearest num (den * Nat.pow 2 scale))

/-- The number next to `n` times the given power of ten. Far outside the range of the format
only the order of magnitude matters. -/
def ofScientific (negative : Bool) (n : Nat) (exponent : Int) : Double :=
  let magnitude := (Nat.toDigits 10 n).length + exponent
  if n = 0 || magnitude < -330 then number negative 0
  else if 310 < magnitude then number negative infinity
  else
    number negative
      (placeOf (n * Nat.pow 10 exponent.toNat * Nat.pow 2 1074) (Nat.pow 10 (-exponent).toNat))

def exponent? : List Char → Option Int
  | [] => some 0
  | c :: cs => if c = 'e' || c = 'E' then Text.integer? cs else none

/-- Digits with or without a point among, before or behind them, and an exponent if need be. -/
def decimal? (negative : Bool) (cs : List Char) : Option Double :=
  let whole := cs.takeWhile Text.isDigit
  let (behind, rest) := match cs.dropWhile Text.isDigit with
    | '.' :: r => (r.takeWhile Text.isDigit, r.dropWhile Text.isDigit)
    | r => ([], r)
  let digits := whole ++ behind
  if digits.isEmpty then none
  else
    (exponent? rest).map fun e =>
      ofScientific negative (Text.valueOf 10 digits) (e - behind.length)

def unsigned? (negative : Bool) (cs : List Char) : Option Double :=
  match (String.ofList cs).toLower with
  | "inf" => some (number negative infinity)
  | "infinity" => some (number negative infinity)
  | "nan" => some nan
  | _ => decimal? negative cs

def ofText? (s : String) : Option Double :=
  match s.toList with
  | '-' :: cs => unsigned? true cs
  | '+' :: cs => unsigned? false cs
  | cs => unsigned? false cs

end Bookend.Double

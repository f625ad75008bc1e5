import Bookend.Settings.Data
import Bookend.Toml.Scan

namespace Bookend.Toml

/-- A further digit, which an underscore may set apart. -/
def nextDigit (base : Nat) : Reader Char
  | '_' :: c :: r => if Text.isDigitOf base c then some (c, r) else none
  | c :: r => if Text.isDigitOf base c then some (c, r) else none
  | [] => none

/-- One digit or more; the underscores between them are dropped. -/
def digitRun (base : Nat) : Reader (List Char)
  | c :: r =>
    if Text.isDigitOf base c then
      let (cs, t) := many (nextDigit base) r
      some (c :: cs, t)
    else none
  | [] => none

/-- A whole number in decimal digits has no zero in front. -/
def decimal : Reader (List Char)
  | '0' :: r => some (['0'], r)
  | s => digitRun 10 s

def sign : Reader (Option Char)
  | '+' :: r => some (some '+', r)
  | '-' :: r => some (some '-', r)
  | s => some (none, s)

/-- Whole numbers have 64 bits. -/
def int64? (n : Int) : Option Data :=
  if -(Nat.pow 2 63 : Int) ≤ n ∧ n < Nat.pow 2 63 then some (.int n) else none

/-- A whole number in another base than ten: no sign, zeros in front allowed. -/
def based (base : Nat) : Reader Data := fun s => do
  let (cs, r) ← digitRun base s
  let v ← int64? (Text.valueOf base cs)
  some (v, r)

/-- A number in scientific form that lies at or beyond the point from which doubles are
infinite, halfway between the largest one and the power of two above it. -/
def overflows (mantissa : List Char) (exponent : Int) : Bool :=
  let m := Text.valueOf 10 mantissa
  let limit := Nat.pow 2 1024 - Nat.pow 2 970
  let size := (Nat.toDigits 10 m).length + exponent
  if m = 0 || size < 300 then false
  else if 320 < size then true
  else if 0 ≤ exponent then limit ≤ m * Nat.pow 10 exponent.toNat
  else limit * Nat.pow 10 (-exponent).toNat ≤ m

/-- The digits behind a point. -/
def fraction : Reader (List Char)
  | '.' :: r => digitRun 10 r
  | _ => none

def exponent : Reader Int
  | c :: r =>
    if c = 'e' || c = 'E' then do
      let (mark, t) ← sign r
      let (cs, u) ← digitRun 10 t
      let n : Int := Text.valueOf 10 cs
      some (if mark = some '-' then -n else n, u)
    else none
  | [] => none

/-- A part that may be missing, but must be well formed once its first character is there. -/
def part (start : Char → Bool) (p : Reader α) (default : α) : Reader α := fun s =>
  match s with
  | c :: _ => if start c then p s else some (default, s)
  | [] => some (default, s)

/-- The number that `s` opens with; `mark` is the sign that was read before it. -/
def unsigned (mark : Option Char) (s : List Char) : Option (Data × List Char) := do
  let (whole, r) ← decimal s
  let (behind, t) ← part (· = '.') (fraction) [] r
  let (power, u) ← part (fun c => c = 'e' || c = 'E') exponent 0 t
  let negative := mark = some '-'
  if t.length = r.length && u.length = t.length then do
    let n : Int := Text.valueOf 10 whole
    let v ← int64? (if negative then -n else n)
    some (v, u)
  else if !negative && overflows (whole ++ behind) (power - behind.length) then none
  else
    some (.real (String.ofList (mark.toList ++ s.take (s.length - u.length))), u)

def number : Reader Data
  | '0' :: 'x' :: r => based 16 r
  | '0' :: 'o' :: r => based 8 r
  | '0' :: 'b' :: r => based 2 r
  | s => do
    let (mark, r) ← sign s
    match r with
    | 'i' :: 'n' :: 'f' :: t => some (.real (String.ofList (mark.toList ++ ['i', 'n', 'f'])), t)
    | 'n' :: 'a' :: 'n' :: t => some (.real (String.ofList (mark.toList ++ ['n', 'a', 'n'])), t)
    | _ => unsigned mark r

end Bookend.Toml

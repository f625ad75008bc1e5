import Bookend.Settings.Data
import Bookend.Toml.Scan

namespace Bookend.Toml

def isLeapYear (y : Nat) : Bool := y % 4 = 0 && (y % 100 ≠ 0 || y % 400 = 0)

def daysIn (year month : Nat) : Nat :=
  if month = 2 then (if isLeapYear year then 29 else 28)
  else if month = 4 || month = 6 || month = 9 || month = 11 then 30
  else 31

/-- Two digits up to a greatest value. -/
def pair (greatest : Nat) : Reader Nat := fun s => do
  let (n, r) ← digits 10 2 s
  if n ≤ greatest then some (n, r) else none

/-- A day of the calendar. -/
def date : Reader Unit := fun s => do
  let (year, s) ← digits 10 4 s
  let (_, s) ← expect '-' s
  let (month, s) ← pair 12 s
  let (_, s) ← expect '-' s
  let (day, s) ← pair 31 s
  if 1 ≤ month && 1 ≤ day && day ≤ daysIn year month then some ((), s) else none

/-- The parts of a second, as many digits as one likes. -/
def secondParts : List Char → List Char
  | '.' :: c :: r => if Text.isDigit c then r.dropWhile Text.isDigit else '.' :: c :: r
  | s => s

/-- A time of day. A minute may have a leap second. -/
def time : Reader Unit := fun s => do
  let (_, s) ← pair 23 s
  let (_, s) ← expect ':' s
  let (_, s) ← pair 59 s
  let (_, s) ← expect ':' s
  let (_, s) ← pair 60 s
  some ((), secondParts s)

/-- How far local time is from universal time. -/
def offset : Reader Unit
  | 'Z' :: r => some ((), r)
  | 'z' :: r => some ((), r)
  | c :: r =>
    if c = '+' || c = '-' then do
      let (_, s) ← pair 23 r
      let (_, s) ← expect ':' s
      let (_, s) ← pair 59 s
      some ((), s)
    else none
  | [] => none

/-- The same text less what `p` reads, if it reads anything. -/
def optional (p : Reader Unit) (s : List Char) : List Char :=
  match p s with
  | some (_, r) => r
  | none => s

def timeOfDate : Reader Unit
  | c :: r =>
    if c = 'T' || c = 't' || c = ' ' then do
      let (_, s) ← time r
      some ((), optional offset s)
    else none
  | [] => none

/-- A date, a date with a time, or a time. -/
def moment : Reader Data := fun s => do
  let r ← match date s with
    | some (_, r) => some (optional timeOfDate r)
    | none => (time s).map Prod.snd
  some (.moment (String.ofList (s.take (s.length - r.length))), r)

end Bookend.Toml

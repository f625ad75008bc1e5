import Bookend.Double.Reading
import Bookend.Double.Writing
import Bookend.Pattern.Basic

namespace Bookend

/-- What a field of a span is to hold. Numbers are compared as numbers, so that their spelling
does not matter. -/
inductive FieldValue
  | flag (b : Bool)
  | real (x : Double)
  | natural (n : Nat)
  | negative (n : Int)
  | pattern (text : String)
  deriving DecidableEq, Repr, Ord

namespace FieldValue

def natural? (cs : List Char) : Option FieldValue :=
  (Text.natural? cs).bind fun n => if n < Nat.pow 2 64 then some (natural n) else none

/-- What has a minus sign is tried after what has none. -/
def negative? (cs : List Char) : Option FieldValue :=
  (Text.integer? cs).bind fun n =>
    if -(Nat.pow 2 63 : Int) ≤ n && n < Nat.pow 2 63 then some (negative n) else none

/-- Whole numbers have 64 bits; beyond them a number is a double. -/
def number? (s : String) : Option FieldValue :=
  ((natural? s.toList).or (negative? s.toList)).or ((Double.ofText? s).map real)

def ofText? (s : String) : Option FieldValue :=
  if s == "true" then some (flag true)
  else if s == "false" then some (flag false)
  else (number? s).or (if Pattern.isPattern s then some (pattern s) else none)

def text : FieldValue → String
  | flag b => if b then "true" else "false"
  | real x => x.text
  | natural n => toString n
  | negative n => toString n
  | pattern s => s

end FieldValue

/-- A field that has to be there, and what it is to hold if that matters. -/
structure FieldTest where
  name : String
  value : Option FieldValue
  deriving DecidableEq, Repr

namespace FieldTest

/-- What stands behind a second equals sign is passed over. -/
def ofText? (s : String) : Option FieldTest :=
  match s.splitOn "=" with
  | name :: value :: _ => (FieldValue.ofText? value).map fun v => ⟨name, some v⟩
  | _ => some ⟨s, none⟩

def text (t : FieldTest) : String :=
  match t.value with
  | none => t.name
  | some v => t.name ++ "=" ++ v.text

/-- One that asks for a value is the more specific. -/
def order (a b : FieldTest) : Ordering :=
  ((compare a.value.isSome b.value.isSome).then (compare a.name b.name)).then
    (compare a.value b.value)

instance : Ord FieldTest := ⟨order⟩

end FieldTest

end Bookend

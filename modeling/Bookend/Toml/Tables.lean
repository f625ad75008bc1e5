import Bookend.Settings.Data

namespace Bookend.Toml

/-- A document while it is read. A table that was only passed through on the way to
another is implicit; one that came from a key with points is dotted. The elements of an
array of tables stand last one first. -/
inductive Node
  | value (v : Data)
  | table (implicit dotted : Bool) (entries : List (String × Node))
  | tables (elements : List (List (String × Node)))
  deriving Repr

abbrev Entries := List (String × Node)

namespace Entries

def replace (k : String) (n : Node) (es : Entries) : Entries :=
  es.map fun e => if e.1 == k then (k, n) else e

/-- Works on the table that a header's path leads to. Tables on the way come into being,
and an array of tables stands for its last element. -/
def within (f : Entries → Option Entries) : List String → Entries → Option Entries
  | [], es => f es
  | k :: ks, es =>
    match es.lookup k with
    | none => (within f ks []).map fun sub => es ++ [(k, .table true false sub)]
    | some (.table implicit dotted sub) =>
      (within f ks sub).map fun sub' => es.replace k (.table implicit dotted sub')
    | some (.tables (last :: before)) =>
      (within f ks last).map fun last' => es.replace k (.tables (last' :: before))
    | some (.tables []) => none
    | some (.value _) => none

/-- A table may be opened once. One that was only passed through may still be. -/
def openTable (k : String) (es : Entries) : Option Entries :=
  match es.lookup k with
  | none => some (es ++ [(k, .table false false [])])
  | some (.table true false sub) => some (es.replace k (.table false false sub))
  | some _ => none

/-- Each opening of an array of tables gives it a further element. -/
def openElement (k : String) (es : Entries) : Option Entries :=
  match es.lookup k with
  | none => some (es ++ [(k, .tables [[]])])
  | some (.tables elements) => some (es.replace k (.tables ([] :: elements)))
  | some _ => none

/-- Sets a key, which may have points, in a table. Points lead through tables that points
made or that were only passed through, and end in one that points made; the last part
must be free. -/
def put (dotted behindPoint : Bool) (v : Data) : List String → Entries → Option Entries
  | [], _ => none
  | [k], es =>
    if dotted = behindPoint && (es.lookup k).isNone then some (es ++ [(k, .value v)]) else none
  | k :: ks, es =>
    match es.lookup k with
    | none => (put true true v ks []).map fun sub => es ++ [(k, .table true true sub)]
    | some (.table true dotted' sub) =>
      (put dotted' true v ks sub).map fun sub' => es.replace k (.table true dotted' sub')
    | some (.tables (last :: before)) =>
      (put false true v ks last).map fun last' => es.replace k (.tables (last' :: before))
    | some _ => none

end Entries

mutual

def Node.toData : Node → Data
  | .value v => v
  | .table _ _ es => .table (entriesData es)
  | .tables ts => .list (elementsData ts).reverse

def entriesData : List (String × Node) → List (String × Data)
  | [] => []
  | (k, n) :: es => (k, n.toData) :: entriesData es

def elementsData : List (List (String × Node)) → List Data
  | [] => []
  | t :: ts => .table (entriesData t) :: elementsData ts

end

/-- The table that a list of keys and values makes, as between braces. -/
def inlineData (pairs : List (List String × Data)) : Option Data :=
  (pairs.foldlM (fun es p => Entries.put false false p.2 p.1 es) []).map
    fun es => .table (entriesData es)

end Bookend.Toml

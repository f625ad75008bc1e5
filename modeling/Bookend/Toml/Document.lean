import Bookend.Toml.Value

namespace Bookend.Toml

/-- What stands on one line of a document, or on several if a value spreads over them. -/
inductive Statement
  | blank
  | entry (key : List String) (v : Data)
  | table (path : List String)
  | element (path : List String)
  deriving Repr

def statementBody : Reader Statement
  | '[' :: '[' :: r => do
    let (path, r) ← key r
    let (_, r) ← expect ']' r
    let (_, r) ← expect ']' r
    some (.element path, r)
  | '[' :: r => do
    let (path, r) ← key r
    let (_, r) ← expect ']' r
    some (.table path, r)
  | s => do
    let ((k, v), r) ← entry (value deepest) s
    some (.entry k v, r)

def statement : Reader Statement := fun s =>
  match lineTail? s with
  | some r => some (.blank, r)
  | none => do
    let (st, r) ← statementBody (skipBlanks s)
    let r ← lineTail? r
    some (st, r)

/-- The text as statements. A byte order mark in front is no part of it. -/
def statements (s : List Char) : Option (List Statement) :=
  let s := match s with
    | '\ufeff' :: r => r
    | s => s
  let (sts, r) := many statement s
  if r.isEmpty then some sts else none

/-- A document so far: all of its tables, and the path of the one that entries go to. -/
structure Draft where
  root : Entries
  path : List String

def Draft.add (d : Draft) : Statement → Option Draft
  | .blank => some d
  | .entry k v =>
    (d.root.within (Entries.put false false v k) d.path).map fun root => { d with root }
  | .table path => do
    let k ← path.getLast?
    let root ← d.root.within (Entries.openTable k) path.dropLast
    some ⟨root, path⟩
  | .element path => do
    let k ← path.getLast?
    let root ← d.root.within (Entries.openElement k) path.dropLast
    some ⟨root, path⟩

/-- The whole document as one table. -/
def read (s : List Char) : Option Data := do
  let sts ← statements s
  let d ← sts.foldlM Draft.add ⟨[], []⟩
  some (.table (entriesData d.root))

end Bookend.Toml

import Bookend.Toml.Moment
import Bookend.Toml.Number
import Bookend.Toml.Quoted
import Bookend.Toml.Tables

namespace Bookend.Toml

def isBareKey (c : Char) : Bool :=
  Text.isDigit c || 'a' ≤ c && c ≤ 'z' || 'A' ≤ c && c ≤ 'Z' || c = '_' || c = '-'

/-- One part of a key, with the blanks around it. -/
def keyPart : Reader String := fun s =>
  let s := skipBlanks s
  let bare := s.takeWhile isBareKey
  if bare.isEmpty then (shortText s).map fun (k, r) => (k, skipBlanks r)
  else some (String.ofList bare, skipBlanks (s.drop bare.length))

/-- Keys may not have more parts than this. -/
def mostParts : Nat := 79

/-- Parts with points between them. -/
def key : Reader (List String) := fun s => do
  let (k, r) ← keyPart s
  let (ks, t) := many (keyPart.behind (expect '.')) r
  if ks.length < mostParts then some (k :: ks, t) else none

/-- A value that holds no others. -/
def plain : Reader Data
  | 't' :: 'r' :: 'u' :: 'e' :: r => some (.bool true, r)
  | 'f' :: 'a' :: 'l' :: 's' :: 'e' :: r => some (.bool false, r)
  | s => (text s).map (fun (t, r) => (.text t, r)) <|> moment s <|> number s

/-- Behind the bracket: items with commas between them; one more comma may follow. -/
def array (item : Reader Data) : Reader Data := fun s =>
  let filled : Reader Data := fun s => (item (skipFill s)).map fun (v, r) => (v, skipFill r)
  match filled s with
  | none => (expect ']' (skipFill s)).map fun (_, r) => (.list [], r)
  | some (v, r) =>
    let (vs, t) := many (filled.behind (expect ',')) r
    let t := match t with
      | ',' :: u => skipFill u
      | u => u
    (expect ']' t).map fun (_, u) => (.list (v :: vs), u)

/-- A key with its value, up to the end of the value. -/
def entry (item : Reader Data) : Reader (List String × Data) := fun s => do
  let (k, r) ← key s
  let (_, r) ← expect '=' r
  let (v, r) ← item (skipBlanks r)
  some ((k, v), r)

/-- Behind the brace: entries with commas between them, all on one line. -/
def inlineTable (item : Reader Data) : Reader Data := fun s => do
  let spaced : Reader (List String × Data) := fun s =>
    (entry item s).map fun (e, r) => (e, skipBlanks r)
  let (pairs, r) := match spaced s with
    | none => ([], skipBlanks s)
    | some (e, r) =>
      let (es, t) := many (spaced.behind (expect ',')) r
      (e :: es, t)
  let (_, r) ← expect '\x7d' r
  let v ← inlineData pairs
  some (v, r)

/-- A value inside which arrays and tables stand at most `depth` deep. -/
def value : Nat → Reader Data
  | 0, s => plain s
  | depth + 1, s =>
    match s with
    | '[' :: r => array (value depth) r
    | '\x7b' :: r => inlineTable (value depth) r
    | s => plain s

/-- How deep arrays and tables may stand in each other. -/
def deepest : Nat := 79

end Bookend.Toml

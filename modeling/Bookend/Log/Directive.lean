import Bookend.Log.FieldTest
import Bookend.Log.Threshold
import Bookend.Text.Alphanumeric
import Bookend.Text.Blank
import Bookend.Text.Bytes

namespace Bookend

/-- One clause of a log filter: what it is about, and what it lets through of that.
A missing part restricts nothing. -/
structure LogDirective where
  target : Option String := none
  span : Option String := none
  field : Option FieldTest := none
  threshold : Threshold := .least .trace
  deriving DecidableEq, Repr

/-- Why a piece of a filter is no directive. -/
inductive PieceFault
  | malformed
  /-- A part begins or ends inside a character. -/
  | torn
  deriving DecidableEq, Repr

namespace PieceFault

/-- What cannot be understood is malformed. -/
def ofMissing : Option α → Except PieceFault α
  | some a => .ok a
  | none => .error malformed

end PieceFault

namespace LogDirective

/-- The part of a piece from one byte to another. -/
def cut (piece : String) (start stop : Nat) : Except PieceFault String :=
  match Text.bytesBetween start stop piece.toList with
  | some cs => .ok (String.ofList cs)
  | none => .error .torn

/-- Reads the threshold behind the equals sign. Without a text there it stays as it is. -/
def withThreshold (d : LogDirective) (s : String) : Except PieceFault LogDirective :=
  if s.isEmpty then .ok d
  else (PieceFault.ofMissing (Threshold.ofText? s)).map fun t => { d with threshold := t }

/-- A word alone is a threshold for everything if it can be read as one, and a target if not. -/
def ofWord (s : String) : LogDirective :=
  match Threshold.ofText? s with
  | some t => { threshold := t }
  | none => { target := some s }

/-- What follows a target or a closing bracket, from byte `i` on: nothing, or a threshold. -/
def afterScope (piece : String) (d : LogDirective) (i : Nat) :
    List Char → Except PieceFault LogDirective
  | [] => .ok d
  | '=' :: _ => (cut piece (i + 1) piece.utf8ByteSize).bind d.withThreshold
  | _ => .error .malformed

/-- What follows the opening brace: a field, and then both closing marks. The field has to be
sound before anything behind it is looked at. -/
def inField (piece : String) (d : LogDirective) (i : Nat) (cs : List Char) :
    Except PieceFault LogDirective := do
  let j := i + Text.width (cs.takeWhile (· ≠ '\x7d'))
  match cs.dropWhile (· ≠ '\x7d') with
  | [] => .error .malformed
  | _ :: r =>
    let field ← cut piece i j
    let test ← PieceFault.ofMissing (if field.isEmpty then none else FieldTest.ofText? field)
    match r with
    | ']' :: t => afterScope piece { d with field := some test } (j + 2) t
    | _ => .error .malformed

/-- What follows the opening bracket: a span's name, a field in braces, or both. -/
def inSpan (piece : String) (target : Option String) (i : Nat) (cs : List Char) :
    Except PieceFault LogDirective := do
  let inName (c : Char) : Bool := c ≠ ']' && c ≠ '\x7b'
  let j := i + Text.width (cs.takeWhile inName)
  match cs.dropWhile inName with
  | [] => .error .malformed
  | mark :: r =>
    let name ← cut piece i j
    if mark = ']' then afterScope piece { target := target, span := some name } (j + 1) r
    else
      let span := if name.isEmpty then none else some name
      inField piece { target := target, span := span } (j + 1) r

/-- What a directive may open with, brackets apart. -/
def opens (c : Char) : Bool := c = '-' || c = ':' || c = '_' || Text.isAlphanumeric c

/-- Reads `word`, `target=threshold` or `target[span{field}]=threshold`. Of the last, each
part but the brackets may be missing, and the threshold with its equals sign too. Blanks
around the piece are passed over where its shape is looked for, but the parts are then cut
from the whole piece at the distances found, so that a blank in front moves all of them, and
may move one into the middle of a character. -/
def ofPiece (piece : String) : Except PieceFault LogDirective :=
  let inTarget (c : Char) : Bool := c ≠ '=' && c ≠ '['
  let shape := Text.trim piece.toList
  let n := Text.width (shape.takeWhile inTarget)
  match shape with
  | [] => .error .malformed
  | '[' :: r => inSpan piece none 1 r
  | c :: _ =>
    if !opens c then .error .malformed
    else
      match shape.dropWhile inTarget with
      | [] => .ok (ofWord piece)
      | mark :: r => do
        let target ← cut piece 0 n
        if mark = '[' then inSpan piece (some target) (n + 1) r
        else afterScope piece { target := some target } n (mark :: r)

/-- A filter's clauses are set apart by commas; between two there may be nothing. -/
def pieces (s : String) : List String := (s.splitOn ",").filter (· ≠ "")

/-- Whether it can decide on a lone event. -/
def onEvents (d : LogDirective) : Bool :=
  d.span.isNone && !d.field.any (·.value.isSome)

/-- Whether it decides by the span that an event lies in. -/
def onSpans (d : LogDirective) : Bool := d.span.isSome || d.field.isSome

/-- Greater is more specific. Two of equal rank are about the same thing. -/
def specificity (a b : LogDirective) : Ordering :=
  [compare (a.target.map String.utf8ByteSize) (b.target.map String.utf8ByteSize),
    compare a.span.isSome b.span.isSome, compare a.field.isSome b.field.isSome,
    compare a.target b.target, compare a.span b.span, compare a.field b.field].foldr
    Ordering.then .eq

/-- The more specific stands further to the front, and takes the place of an older one
about the same thing. -/
def place (d : LogDirective) : List LogDirective → List LogDirective
  | [] => [d]
  | e :: r =>
    match d.specificity e with
    | .gt => d :: e :: r
    | .eq => d :: r
    | .lt => e :: place d r

def ranked (ds : List LogDirective) : List LogDirective := ds.foldl (fun r d => place d r) []

def scopeText (d : LogDirective) : String :=
  let field := d.field.map fun t => "\x7b" ++ t.text ++ "\x7d"
  let inner := if onSpans d then "[" ++ d.span.getD "" ++ field.getD "" ++ "]" else ""
  d.target.getD "" ++ inner

def text (d : LogDirective) : String :=
  if d.target.isSome || onSpans d then scopeText d ++ "=" ++ d.threshold.text
  else d.threshold.text

def concerns (d : LogDirective) (e : Event) : Bool :=
  (d.target.getD "").isPrefixOf e.source.target &&
    d.field.all fun t => e.fieldNames.contains t.name

end LogDirective
end Bookend

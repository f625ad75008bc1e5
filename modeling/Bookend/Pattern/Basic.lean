import Bookend.Pattern.Set
import Bookend.Text.Alphanumeric

namespace Bookend.Pattern

/-- What an opening parenthesis begins: a group, in which a mode of its own may hold, or no
group at all but a change of mode. -/
inductive Opening
  | group (mode : Mode)
  | named (name : String)
  | change (mode : Mode)
  deriving Repr

def isNameChar (c : Char) : Bool :=
  c = '_' || c = '.' || c = '[' || c = ']' || Text.isAlphanumeric c

/-- A name and the sign that closes it. -/
def name? (s : List Char) : Option (String × List Char) :=
  let name := s.takeWhile (· ≠ '>')
  match s.dropWhile (· ≠ '>'), name with
  | '>' :: r, c :: cs =>
    if (c = '_' || Text.isAlphabetic c) && cs.all isNameChar then some (String.ofList name, r)
    else none
  | _, _ => none

/-- What follows an opening parenthesis. A look ahead or behind is no part of a pattern. -/
def opening? (m : Mode) (s : List Char) : Option (Opening × List Char) :=
  match m.skip s with
  | '?' :: '<' :: '=' :: _ => none
  | '?' :: '<' :: '!' :: _ => none
  | '?' :: 'P' :: '<' :: r => (name? r).map fun (n, t) => (.named n, t)
  | '?' :: '<' :: r => (name? r).map fun (n, t) => (.named n, t)
  | '?' :: r =>
    match switched m [] r with
    | some (m', _, ':' :: t) => some (.group m', t)
    | some (m', _ :: _, ')' :: t) => some (.change m', t)
    | _ => none
  | r => some (.group m, r)

/-- A group while it is read: the heights of its parts since the last bar, the newest first,
and of the branches before it. A change of mode is a part without a height, since it cannot be
repeated. -/
structure OpenGroup where
  parts : List (Option Nat) := []
  branches : List Nat := []
  deriving Repr

namespace OpenGroup

def add (g : OpenGroup) (h : Option Nat) : OpenGroup := { g with parts := h :: g.parts }

/-- After a bar. -/
def branch (g : OpenGroup) : OpenGroup :=
  { branches := heightOf (g.parts.map (·.getD 0)) :: g.branches }

def height (g : OpenGroup) : Nat := heightOf g.branch.branches

/-- The newest part, repeated. -/
def repeat? (g : OpenGroup) : Option OpenGroup :=
  match g.parts with
  | some h :: parts => some { g with parts := some (1 + h) :: parts }
  | _ => none

end OpenGroup

def isRepetition (c : Char) : Bool := c = '?' || c = '*' || c = '+'

/-- Behind a repetition a question mark asks for as few as will do. -/
def skipLazy : List Char → List Char
  | '?' :: r => r
  | r => r

/-- Reads the rest of a pattern, the groups around it listed from the inside out with the
modes outside of them, and says how high it is. No two groups share a name. A count stands in
braces, and the texts that are asked about here have no closing one. Every step takes a
character or more, of which there are `fuel`. -/
def body? : Nat → List String → List (OpenGroup × Mode) → OpenGroup → Mode → List Char →
    Option Nat
  | 0, _, _, _, _, _ => none
  | fuel + 1, names, outer, g, m, s =>
    match m.skip s with
    | [] => if outer.isEmpty then some g.height else none
    | '(' :: r =>
      match opening? m r with
      | some (.group m', t) => body? fuel names ((g, m) :: outer) {} m' t
      | some (.named n, t) =>
        if names.contains n then none else body? fuel (n :: names) ((g, m) :: outer) {} m t
      | some (.change m', t) => body? fuel names outer (g.add none) m' t
      | none => none
    | ')' :: r =>
      match outer with
      | [] => none
      | (o, m') :: outer => body? fuel names outer (o.add (some (1 + g.height))) m' r
    | '|' :: r => body? fuel names outer g.branch m r
    | '[' :: r => (set? m r).bind fun (h, t) => body? fuel names outer (g.add (some h)) m t
    | '\x7b' :: _ => none
    | c :: r =>
      if isRepetition c then g.repeat?.bind fun g => body? fuel names outer g m (skipLazy r)
      else
        match atom? m (c :: r) with
        | some (a, t) => if a.stands m then body? fuel names outer (g.add (some 0)) m t else none
        | none => none

/-- How deep the parts of a pattern lie in one another at most, if the text is a pattern. -/
def height? (s : String) : Option Nat := body? (s.length + 1) [] [] {} {} s.toList

/-- A text is a pattern if it is well formed and not too deep. -/
def isPattern (s : String) : Bool := (height? s).any (· ≤ 250)

end Bookend.Pattern

import Bookend.Pattern.Atom

namespace Bookend.Pattern

/-- The height of a sequence of parts: a part alone is no sequence. -/
def heightOf : List Nat → Nat
  | [] => 0
  | [h] => h
  | hs => 1 + hs.foldl max 0

/-- A set of characters while it is read: the heights of its members so far, the newest
first, and of what stands before the last operator. At its start signs are taken literally
that mean something later. -/
structure OpenSet where
  members : List Nat := []
  before : Option Nat := none
  fresh : Bool := true
  deriving Repr

namespace OpenSet

def add (s : OpenSet) (h : Nat) : OpenSet := { s with members := h :: s.members, fresh := false }

def height (s : OpenSet) : Nat :=
  match s.before with
  | none => heightOf s.members
  | some h => 1 + max h (heightOf s.members)

/-- After an operator. -/
def operate (s : OpenSet) : OpenSet := { before := some s.height, fresh := false }

end OpenSet

/-- A character can be a member if its other case need not be known, and outside Unicode
mode if it is a byte of its own. -/
def isMember (m : Mode) (c : Char) : Bool := if m.unicode then !m.caseless else isAscii c

/-- The named sets of ASCII characters. -/
def setNames : List String :=
  ["alnum", "alpha", "ascii", "blank", "cntrl", "digit", "graph", "lower", "print", "punct",
    "space", "upper", "word", "xdigit"]

/-- A named set behind its opening bracket, and whether it is negated. -/
def named? : List Char → Option (Bool × List Char)
  | ':' :: r =>
    let (negated, s) := match r with
      | '^' :: t => (true, t)
      | _ => (false, r)
    match s.dropWhile (· ≠ ':') with
    | ':' :: ']' :: t =>
      if setNames.contains (String.ofList (s.takeWhile (· ≠ ':'))) then some (negated, t) else none
    | _ => none
  | _ => none

/-- Whether a named set, or all that is not in it, can be a member. -/
def mayBeNamed (m : Mode) (negated : Bool) : Bool := if m.unicode then !m.caseless else !negated

/-- What comes next, past blanks and the sign that opens a comment. -/
def Mode.ahead (m : Mode) (s : List Char) : Option Char :=
  if !m.spaced then s.head?
  else
    let t := match s.dropWhile Text.isBlank with
      | '#' :: r => r.dropWhile Text.isBlank
      | r => r
    t.head?.or s.head?

def setAtom? (m : Mode) : List Char → Option (Atom × List Char)
  | [] => none
  | '\\' :: r => escaped? m r
  | c :: r => some (.char c, r)

def alone? (m : Mode) (a : Atom) (r : List Char) : Option (List Char) :=
  match a, a.char? with
  | _, some c => if isMember m c then some r else none
  | .family negated, none => if !m.unicode && !negated then some r else none
  | _, none => none

/-- A member that is no set: one atom, or two with a dash between them. A dash before the
closing bracket or another dash makes no range. -/
def range? (m : Mode) (s : List Char) : Option (List Char) := do
  let (a, r) ← setAtom? m s
  match m.skip r with
  | [] => none
  | '-' :: t =>
    if m.ahead t = some ']' || m.ahead t = some '-' then alone? m a ('-' :: t)
    else do
      let (b, u) ← setAtom? m (m.skip t)
      let first ← a.char?
      let last ← b.char?
      if first ≤ last && isMember m first && isMember m last then some u else none
  | t => alone? m a t

/-- What follows an opening bracket that opens a set. All but a set may be matched only where
that leaves whole characters. -/
def begin? (m : Mode) (s : List Char) : Option (List Char) :=
  match m.skip s with
  | '^' :: r => if m.unicode then some r else none
  | r => some r

/-- Reads the rest of a set in brackets, those around it listed from the inside out, and
says how high it is. Every step takes a character or more, of which there are `fuel`. -/
def setBody? (m : Mode) : Nat → List OpenSet → OpenSet → List Char → Option (Nat × List Char)
  | 0, _, _, _ => none
  | fuel + 1, outer, set, s =>
    match m.skip s with
    | [] => none
    | '[' :: r =>
      match named? r with
      | some (negated, t) =>
        if mayBeNamed m negated then setBody? m fuel outer (set.add 0) t else none
      | none => (begin? m r).bind (setBody? m fuel ({ set with fresh := false } :: outer) {})
    | ']' :: r =>
      if set.fresh && set.members.isEmpty then
        if isMember m ']' then setBody? m fuel outer (set.add 0) r else none
      else
        match outer with
        | [] => some (1 + set.height, r)
        | o :: outer => setBody? m fuel outer (o.add (1 + set.height)) r
    | '-' :: r =>
      if set.fresh then
        if isMember m '-' then setBody? m fuel outer { set.add 0 with fresh := true } r else none
      else
        match r with
        | '-' :: t => setBody? m fuel outer set.operate t
        | _ => (range? m ('-' :: r)).bind (setBody? m fuel outer (set.add 0))
    | '&' :: '&' :: r => setBody? m fuel outer set.operate r
    | '~' :: '~' :: r => setBody? m fuel outer set.operate r
    | t => (range? m t).bind (setBody? m fuel outer (set.add 0))

/-- A set in brackets, from behind the first of them. -/
def set? (m : Mode) (s : List Char) : Option (Nat × List Char) :=
  (begin? m s).bind fun r => setBody? m (r.length + 1) [] {} r

end Bookend.Pattern

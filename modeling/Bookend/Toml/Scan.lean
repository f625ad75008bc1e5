import Bookend.Text.Digits

namespace Bookend.Toml

/-- Reads something at the front of a text and says what is left of it. -/
abbrev Reader (α : Type) := List Char → Option (α × List Char)

/-- As many as there are. It stops for good at one that takes nothing. -/
def many (p : Reader α) (s : List Char) : List α × List Char :=
  match p s with
  | none => ([], s)
  | some (a, r) =>
    if r.length < s.length then
      let (as, t) := many p r
      (a :: as, t)
    else ([], s)
termination_by s.length

def expect (c : Char) : Reader Unit
  | d :: r => if d = c then some ((), r) else none
  | [] => none

/-- Reads `opening`, then `p`, and keeps only the second. -/
def Reader.behind (p : Reader α) (opening : Reader β) : Reader α := fun s => do
  let (_, r) ← opening s
  p r

def isBlank (c : Char) : Bool := c = ' ' || c = '\t'

def skipBlanks (s : List Char) : List Char := s.dropWhile isBlank

/-- A line ends with a line feed, with or without a carriage return before it. -/
def newline? : List Char → Option (List Char)
  | '\n' :: r => some r
  | '\r' :: '\n' :: r => some r
  | _ => none

/-- Anything but controls; the tab is the one that is let in. -/
def isVisible (c : Char) : Bool := c = '\t' || 0x20 ≤ c.toNat && c.toNat ≠ 0x7f

def skipComment : List Char → List Char
  | '#' :: r => r.dropWhile isVisible
  | s => s

def lineEnd? : List Char → Option (List Char)
  | [] => some []
  | s => newline? s

/-- What may follow a statement on its line. -/
def lineTail? (s : List Char) : Option (List Char) := lineEnd? (skipComment (skipBlanks s))

/-- Blanks and line ends. -/
def skipSpace (s : List Char) : List Char :=
  match newline? (skipBlanks s) with
  | some r => if r.length < s.length then skipSpace r else s
  | none => skipBlanks s
termination_by s.length

/-- Blanks, line ends and comments, as they may stand between the items of an array. -/
def skipFill (s : List Char) : List Char :=
  match newline? (skipComment (skipBlanks s)) with
  | some r => if r.length < s.length then skipFill r else s
  | none => skipBlanks s
termination_by s.length

/-- Exactly `n` digits of the base, no more and no less of them taken. -/
def digits (base n : Nat) : Reader Nat := fun s =>
  let front := s.take n
  if front.length = n && front.all (Text.isDigitOf base) then
    some (Text.valueOf base front, s.drop n)
  else none

end Bookend.Toml

import Bookend.Pattern.Mode
import Bookend.Text.Digits

namespace Bookend.Pattern

/-- The smallest parts of a pattern. -/
inductive Atom
  | char (c : Char)
  /-- A character given by two hexadecimal digits, which is a byte outside Unicode mode. -/
  | byte (c : Char)
  | any
  /-- An end of the text or of a line. -/
  | edge
  /-- The end of a word, or a place that is none. -/
  | wordEdge
  /-- Digits, blanks or word characters, or all others. -/
  | family (negated : Bool)
  deriving DecidableEq, Repr

def isAscii (c : Char) : Bool := c.toNat < 0x80

namespace Atom

/-- Whether it can stand alone. Outside Unicode mode nothing may match a part of a character,
which a byte beyond ASCII, any byte and all bytes but some would do. -/
def stands (m : Mode) : Atom → Bool
  | char _ => !(m.unicode && m.caseless)
  | byte c => if m.unicode then !m.caseless else isAscii c
  | any => m.unicode
  | edge => true
  | wordEdge => !m.unicode
  | family negated => !m.unicode && !negated

def char? : Atom → Option Char
  | char c => some c
  | byte c => some c
  | _ => none

end Atom

/-- So many hexadecimal digits, which fill may set apart. -/
def hexDigits (m : Mode) : Nat → Nat → List Char → Option (Nat × List Char)
  | 0, v, s => some (v, s)
  | n + 1, v, s =>
    match m.skip s with
    | [] => none
    | c :: r => (Text.digitValue? c).bind fun d => hexDigits m n (16 * v + d) r

def charOf? (n : Nat) : Option Char := if n.isValidChar then some (Char.ofNat n) else none

/-- The characters that a letter behind a backslash stands for. -/
def lettered : List (Char × Char) :=
  [('a', '\x07'), ('f', '\x0c'), ('t', '\t'), ('n', '\n'), ('r', '\r'), ('v', '\x0b')]

/-- What follows a backslash. There are no references to groups, so a digit is refused; so
is a property of characters, which takes tables. -/
def escaped? (m : Mode) : List Char → Option (Atom × List Char)
  | [] => none
  | c :: r =>
    if c = 'x' then
      (hexDigits m 2 0 r).bind fun (v, t) => (charOf? v).map fun d => (.byte d, t)
    else if c = 'u' || c = 'U' then
      (hexDigits m (if c = 'u' then 4 else 8) 0 r).bind fun (v, t) =>
        (charOf? v).map fun d => (.char d, t)
    else if c = 'd' || c = 's' || c = 'w' then some (.family false, r)
    else if c = 'D' || c = 'S' || c = 'W' then some (.family true, r)
    else if c = 'A' || c = 'z' then some (.edge, r)
    else if c = 'b' || c = 'B' || c = '<' || c = '>' then some (.wordEdge, r)
    else
      match lettered.lookup c with
      | some d => some (.char d, r)
      | none => if isAscii c && !c.isAlphanum then some (.char c, r) else none

/-- One atom at the front of a text, outside of brackets. -/
def atom? (m : Mode) : List Char → Option (Atom × List Char)
  | [] => none
  | c :: r =>
    if c = '\\' then escaped? m r
    else if c = '.' then some (.any, r)
    else if c = '^' || c = '$' then some (.edge, r)
    else some (.char c, r)

end Bookend.Pattern

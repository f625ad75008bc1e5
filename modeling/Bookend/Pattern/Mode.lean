import Bookend.Text.Blank

/-!
Patterns, as far as it matters whether a text is one. They are regular expressions in the
usual notation, for a matcher that is a machine with finitely many states and has no tables of
characters. So what needs such a table (matching without regard to case, families of
characters, the ends of words) can be asked for within ASCII only.
-/

namespace Bookend.Pattern

/-- How the rest of a group is read. -/
structure Mode where
  caseless : Bool := false
  unicode : Bool := true
  spaced : Bool := false
  deriving DecidableEq, Repr

/-- Passes over blanks and over comments, which run from a hash to the end of the line. -/
def skipFill (inComment : Bool) : List Char → List Char
  | [] => []
  | c :: r =>
    if inComment then skipFill (c ≠ '\n') r
    else if Text.isBlank c then skipFill false r
    else if c = '#' then skipFill true r
    else c :: r

/-- In spaced mode what stands between the signs of a pattern means nothing. -/
def Mode.skip (m : Mode) (s : List Char) : List Char := if m.spaced then skipFill false s else s

/-- The letters that can be switched; those that are not parts of a mode change only what is
matched, not what is well formed. -/
def switches : List Char := ['i', 'm', 's', 'U', 'u', 'R', 'x']

def Mode.set (m : Mode) (c : Char) (on : Bool) : Mode :=
  if c = 'i' then { m with caseless := on }
  else if c = 'u' then { m with unicode := on }
  else if c = 'x' then { m with spaced := on }
  else m

/-- A run of switches up to the sign behind it. After one minus sign they are turned off;
there has to be one at least then. No letter comes twice. -/
def switched (m : Mode) (seen : List Char) : List Char → Option (Mode × List Char × List Char)
  | [] => none
  | c :: r =>
    if c = ':' || c = ')' then if seen.head? = some '-' then none else some (m, seen, c :: r)
    else if seen.contains c || !(c = '-' || switches.contains c) then none
    else switched (m.set c !(seen.contains '-')) (c :: seen) r

end Bookend.Pattern

import Bookend.Toml.Scan

namespace Bookend.Toml

/-- A character given by its number in hexadecimal digits. -/
def scalar (n : Nat) : Reader Char := fun s => do
  let (code, r) ← digits 16 n s
  if code.isValidChar then some (Char.ofNat code, r) else none

/-- What stands behind a backslash. -/
def escaped : Reader Char
  | 'b' :: r => some ('\x08', r)
  | 't' :: r => some ('\t', r)
  | 'n' :: r => some ('\n', r)
  | 'f' :: r => some ('\x0c', r)
  | 'r' :: r => some ('\r', r)
  | '"' :: r => some ('"', r)
  | '\\' :: r => some ('\\', r)
  | 'u' :: r => scalar 4 r
  | 'U' :: r => scalar 8 r
  | _ => none

/-- One character between double quotes. -/
def basicChar : Reader Char
  | '\\' :: r => escaped r
  | c :: r => if isVisible c && c ≠ '"' then some (c, r) else none
  | [] => none

/-- One character between single quotes, which is always itself. -/
def literalChar : Reader Char
  | c :: r => if isVisible c && c ≠ '\'' then some (c, r) else none
  | [] => none

/-- Behind the opening quote: characters up to the closing one. -/
def oneLine (quote : Char) (char : Reader Char) : Reader String := fun s => do
  let (cs, r) := many char s
  let (_, t) ← expect quote r
  some (String.ofList cs, t)

/-- One or two quotes do not close a text that was opened by three. -/
def strayQuotes (quote : Char) : Reader (List Char) := fun s =>
  let run := s.takeWhile (· = quote)
  if 1 ≤ run.length && run.length ≤ 2 then some (run, s.drop run.length) else none

/-- A line end inside a text is a line feed, however it is written. -/
def brokenLine : Reader (List Char) := fun s => (newline? s).map fun r => (['\n'], r)

/-- A backslash at the end of a line takes the line end and all space behind it away. -/
def joinedLines : Reader (List Char)
  | '\\' :: r => (newline? (skipBlanks r)).map fun t => ([], skipSpace t)
  | _ => none

def Reader.single (p : Reader Char) : Reader (List Char) := fun s =>
  (p s).map fun (c, r) => ([c], r)

def Reader.orElse (p q : Reader α) : Reader α := fun s => p s <|> q s

def basicPiece : Reader (List Char) :=
  brokenLine |>.orElse (strayQuotes '"') |>.orElse joinedLines |>.orElse (Reader.single basicChar)

def literalPiece : Reader (List Char) :=
  brokenLine |>.orElse (strayQuotes '\'') |>.orElse (Reader.single literalChar)

/-- Behind three opening quotes: pieces up to three closing ones, before which up to two
more quotes belong to the text. A line end right after the opening is no part of it. -/
def manyLines (quote : Char) (piece : Reader (List Char)) : Reader String := fun s =>
  let (pieces, r) := many piece ((newline? s).getD s)
  let run := (r.takeWhile (· = quote)).length
  if 3 ≤ run && run ≤ 5 then
    some (String.ofList (pieces.flatten ++ List.replicate (run - 3) quote), r.drop run)
  else none

/-- A text on one line, in either kind of quotes. -/
def shortText : Reader String
  | '"' :: r => oneLine '"' basicChar r
  | '\'' :: r => oneLine '\'' literalChar r
  | _ => none

/-- A text in any of the four kinds of quotes. -/
def text : Reader String
  | '"' :: '"' :: '"' :: r => manyLines '"' basicPiece r
  | '\'' :: '\'' :: '\'' :: r => manyLines '\'' literalPiece r
  | s => shortText s

end Bookend.Toml

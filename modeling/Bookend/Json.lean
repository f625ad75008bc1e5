namespace Bookend

/-- A JSON document without fractions. Members keep the order they are written in. -/
inductive Json
  | null
  | bool (b : Bool)
  | num (n : Int)
  | str (s : String)
  | arr (items : List Json)
  | obj (members : List (String × Json))
  deriving Repr, Inhabited

namespace Json

def hexDigit (n : Nat) : Char :=
  if n < 10 then Char.ofNat (48 + n) else Char.ofNat (87 + n)

/-- Quote, backslash and the controls below a blank are written as escapes, all else as it is. -/
def escape (c : Char) : List Char :=
  if c = '"' then ['\\', '"']
  else if c = '\\' then ['\\', '\\']
  else if c = '\n' then ['\\', 'n']
  else if c = '\r' then ['\\', 'r']
  else if c = '\t' then ['\\', 't']
  else if c = '\x08' then ['\\', 'b']
  else if c = '\x0c' then ['\\', 'f']
  else if c.toNat < 32 then
    ['\\', 'u', '0', '0', hexDigit (c.toNat / 16), hexDigit (c.toNat % 16)]
  else [c]

def quoted (s : String) : List Char := '"' :: (s.toList.flatMap escape ++ ['"'])

def number (n : Int) : List Char := (toString n).toList

def newline (depth : Nat) : List Char := '\n' :: List.replicate (2 * depth) ' '

mutual

/-- Two blanks a level, one item a line; empty lists and objects stay on theirs. -/
def layout (depth : Nat) : Json → List Char
  | null => ['n', 'u', 'l', 'l']
  | bool true => ['t', 'r', 'u', 'e']
  | bool false => ['f', 'a', 'l', 's', 'e']
  | num n => number n
  | str s => quoted s
  | arr [] => ['[', ']']
  | arr (v :: vs) =>
    '[' :: newline (depth + 1) ++ layout (depth + 1) v ++ layoutItems (depth + 1) vs
      ++ newline depth ++ [']']
  | obj [] => ['\x7b', '\x7d']
  | obj ((k, v) :: ms) =>
    '\x7b' :: newline (depth + 1) ++ quoted k ++ [':', ' '] ++ layout (depth + 1) v
      ++ layoutMembers (depth + 1) ms ++ newline depth ++ ['\x7d']

def layoutItems (depth : Nat) : List Json → List Char
  | [] => []
  | v :: vs => ',' :: newline depth ++ layout depth v ++ layoutItems depth vs

def layoutMembers (depth : Nat) : List (String × Json) → List Char
  | [] => []
  | (k, v) :: ms =>
    ',' :: newline depth ++ quoted k ++ [':', ' '] ++ layout depth v ++ layoutMembers depth ms

end

mutual

/-- Everything on one line, without blanks. -/
def line : Json → List Char
  | null => ['n', 'u', 'l', 'l']
  | bool true => ['t', 'r', 'u', 'e']
  | bool false => ['f', 'a', 'l', 's', 'e']
  | num n => number n
  | str s => quoted s
  | arr [] => ['[', ']']
  | arr (v :: vs) => '[' :: line v ++ lineItems vs ++ [']']
  | obj [] => ['\x7b', '\x7d']
  | obj ((k, v) :: ms) => '\x7b' :: quoted k ++ ':' :: line v ++ lineMembers ms ++ ['\x7d']

def lineItems : List Json → List Char
  | [] => []
  | v :: vs => ',' :: line v ++ lineItems vs

def lineMembers : List (String × Json) → List Char
  | [] => []
  | (k, v) :: ms => ',' :: quoted k ++ ':' :: line v ++ lineMembers ms

end

def pretty (v : Json) : String := String.ofList (layout 0 v)

def compact (v : Json) : String := String.ofList (line v)

/-- An absent value is written as null. -/
def ofOption (f : α → Json) : Option α → Json
  | none => null
  | some a => f a

end Json
end Bookend

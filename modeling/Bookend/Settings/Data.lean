namespace Bookend

/-- A configuration document, whichever notation it was written in. Numbers with a
fraction and dates are kept as their text: no setting is one. -/
inductive Data
  | null
  | bool (b : Bool)
  | int (n : Int)
  | real (literal : String)
  | text (s : String)
  | moment (literal : String)
  | list (items : List Data)
  | table (entries : List (String × Data))
  deriving Repr, Inhabited

namespace Data

def isNull : Data → Bool
  | null => true
  | _ => false

/-- A list or a table without anything in it. -/
def isHollow : Data → Bool
  | list [] => true
  | table [] => true
  | _ => false

end Data
end Bookend

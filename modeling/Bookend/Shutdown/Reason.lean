namespace Bookend

/-- Why orderly termination began. -/
inductive Reason
  | interrupt
  | terminate
  | requested
  deriving DecidableEq, Repr

namespace Reason

def text : Reason → String
  | interrupt => "interrupt"
  | terminate => "terminate"
  | requested => "requested"

/-- The status a cut-short main ends with: 128 plus the signal's number, or
success when the program itself asked to stop. -/
def exitStatus : Reason → Int32
  | interrupt => 130
  | terminate => 143
  | requested => 0

end Reason
end Bookend

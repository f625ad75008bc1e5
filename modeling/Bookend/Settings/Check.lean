import Bookend.Event
import Bookend.Settings.Basic

namespace Bookend

/-- The two settings that hold an exit code. -/
inductive CodeField
  | startup
  | cleanup
  deriving DecidableEq, Repr

def CodeField.key : CodeField → String
  | startup => "exit.startup_failure_code"
  | cleanup => "exit.cleanup_failure_code"

/-- A rule that settings break. -/
inductive Fault
  | unknownLogLevel (level : String)
  | exitCodeOutOfRange (field : CodeField) (value : Int32)
  | ambiguousExitCodes (value : Int32)
  deriving DecidableEq, Repr

def Fault.text : Fault → String
  | unknownLogLevel level => "unknown log level `" ++ level ++ "`"
  | exitCodeOutOfRange field value =>
    field.key ++ " must be between 1 and 255, got " ++ toString value.toInt
  | ambiguousExitCodes value =>
    "startup and cleanup failure codes must differ (both " ++ toString value.toInt ++ ")"

namespace Settings

/-- A status that a process can hand on and that does not mean success. -/
def isFailureCode (c : Int32) : Bool := 1 ≤ c.toInt && c.toInt ≤ 255

def levelFaults (s : Settings) : List Fault :=
  if (Level.ofName? s.observability.logLevel).isSome then []
  else [.unknownLogLevel s.observability.logLevel]

def codeFaults (field : CodeField) (c : Int32) : List Fault :=
  if isFailureCode c then [] else [.exitCodeOutOfRange field c]

def equalityFaults (s : Settings) : List Fault :=
  if s.exit.startupFailure = s.exit.cleanupFailure then [.ambiguousExitCodes s.exit.startupFailure]
  else []

/-- Every broken rule, in the order of the rules. -/
def faults (s : Settings) : List Fault :=
  s.levelFaults ++ codeFaults .startup s.exit.startupFailure ++
    codeFaults .cleanup s.exit.cleanupFailure ++ s.equalityFaults

def check (s : Settings) : Except (List Fault) Settings :=
  match s.faults with
  | [] => .ok s
  | fs => .error fs

end Settings
end Bookend

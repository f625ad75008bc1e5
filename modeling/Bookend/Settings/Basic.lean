namespace Bookend

inductive LogFormat
  | pretty
  | json
  deriving DecidableEq, Repr

def LogFormat.text : LogFormat → String
  | pretty => "pretty"
  | json => "json"

structure Observability where
  logLevel : String := "info"
  logFormat : LogFormat := .pretty
  deriving DecidableEq, Repr

/-- How a registry treats hooks that fail. -/
structure HookRules where
  catchPanics : Bool := true
  unwindOnStartupFailure : Bool := true
  deriving DecidableEq, Repr

/-- The statuses that stand for failed hooks. -/
structure ExitCodes where
  startupFailure : Int32 := 70
  cleanupFailure : Int32 := 1
  deriving DecidableEq, Repr

structure Settings where
  observability : Observability := {}
  registry : HookRules := {}
  exit : ExitCodes := {}
  deriving DecidableEq, Repr

end Bookend

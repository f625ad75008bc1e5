import Bookend.Report

namespace Bookend

/-- A registry's life: hooks are collected, the startup pass runs, main runs, the
cleanup pass runs, and that is all. -/
inductive Stage
  | collecting
  | startupRunning
  | ready
  | cleanupRunning
  | done
  deriving DecidableEq, Repr

namespace Stage

def text : Stage → String
  | collecting => "collecting"
  | startupRunning => "running startup hooks"
  | ready => "ready"
  | cleanupRunning => "running cleanup hooks"
  | done => "done"

def isTerminal (s : Stage) : Bool := s == done

end Stage

/-- The calls that a stage admits or refuses. -/
inductive Action
  | register
  | atExit
  | runStartup
  | runCleanup
  deriving DecidableEq, Repr

namespace Action

def text : Action → String
  | register => "register"
  | atExit => "at_exit"
  | runStartup => "run_startup_phase"
  | runCleanup => "run_cleanup_phase"

/-- The one stage in which a call is admitted. -/
def stage : Action → Stage
  | register => .collecting
  | atExit => .ready
  | runStartup => .collecting
  | runCleanup => .ready

end Action

inductive Error
  | nullCallback
  | invalidPhase (action : Action) (stage : Stage)
  | unknownHandle (handle : Handle)
  | callbackFailure (failure : Failure) (startup unwind : PassReport)
  | incompleteLoad (module : String)
  deriving DecidableEq, Repr

namespace Error

def message : Error → String
  | nullCallback => "hook registration has no callback"
  | invalidPhase a s => "`" ++ a.text ++ "` is not allowed while the registry is " ++ s.text
  | unknownHandle h => "no startup hook " ++ h.text ++ " is registered"
  | callbackFailure f _ _ => "startup aborted: " ++ f.text
  | incompleteLoad m => "module `" ++ m ++ "` failed to load; refusing to launch"

end Error

/-- How a call that runs callbacks ends: with a value, with an error, or left by a
panic that nobody caught. -/
inductive Ending (α : Type)
  | value (a : α)
  | error (e : Error)
  | panic (p : Payload)
  deriving DecidableEq, Repr

end Bookend

import Bookend.Registry.Stage
import Bookend.Settings.Basic

namespace Bookend

/-- How a launch that was not refused ended: main ran and cleanup followed, or a
startup hook failed and main never ran. -/
inductive LaunchOutcome
  | completed (startup : PassReport) (exitStatus : Int32) (cleanup : PassReport)
  | startupAborted (failure : Failure) (startup unwind : PassReport)
  deriving DecidableEq, Repr

structure LaunchReport where
  outcome : LaunchOutcome
  codes : ExitCodes
  deriving DecidableEq, Repr

namespace LaunchReport

def mainRan (r : LaunchReport) : Bool :=
  match r.outcome with
  | .completed .. => true
  | .startupAborted .. => false

/-- The failures of the pass that came last. -/
def cleanupFailures (r : LaunchReport) : List Failure :=
  match r.outcome with
  | .completed _ _ cleanup => cleanup.failures
  | .startupAborted _ _ unwind => unwind.failures

/-- A status of main's own wins over cleanup failures; an aborted startup over both. -/
def exitCode (r : LaunchReport) : Int32 :=
  match r.outcome with
  | .startupAborted .. => r.codes.startupFailure
  | .completed _ status cleanup =>
    if status ≠ 0 then status
    else if cleanup.success then 0
    else r.codes.cleanupFailure

/-- A process can only hand on a byte; a code that is none becomes plain failure. -/
def exitByte (r : LaunchReport) : UInt8 :=
  let n := r.exitCode.toInt
  if 0 ≤ n ∧ n ≤ 255 then UInt8.ofNat n.toNat else 1

def toJson (r : LaunchReport) : Json :=
  match r.outcome with
  | .completed startup status cleanup =>
    .obj [("outcome", .str "completed"), ("startup", startup.toJson),
      ("exit_status", .num status.toInt), ("cleanup", cleanup.toJson)]
  | .startupAborted failure startup unwind =>
    .obj [("outcome", .str "startup_aborted"), ("failure", failure.toJson),
      ("startup", startup.toJson), ("unwind", unwind.toJson)]

def pretty (r : LaunchReport) : String := r.toJson.pretty

end LaunchReport
end Bookend

import Bookend.Report

namespace Bookend

/-- How grave an event is, the gravest last. -/
inductive Level
  | trace
  | debug
  | info
  | warn
  | error
  deriving DecidableEq, Repr

namespace Level

def text : Level → String
  | trace => "trace"
  | debug => "debug"
  | info => "info"
  | warn => "warn"
  | error => "error"

def rank : Level → Nat
  | trace => 0
  | debug => 1
  | info => 2
  | warn => 3
  | error => 4

def all : List Level := [trace, debug, info, warn, error]

/-- Level names are read without regard to the case of their ASCII letters. -/
def ofName? (s : String) : Option Level :=
  all.find? fun l => l.text == s.toLower

end Level

/-- Everything that a run reports while it goes on. -/
inductive Event
  | hookRegistered (hook : String) (module : Option String) (phase : Phase) (seq : Handle)
      (priority : Int)
  | atExitRegistered (hook : String) (seq : Handle)
  | startupBegan (hooks : Nat)
  | invoking (hook : String) (seq : Handle) (phase : Phase)
  | hookFailed (hook : String) (seq : Handle) (phase : Phase) (error : String)
  | startupCompleted (completed : Nat)
  | startupAborted (hook error : String) (skipped : Nat)
  | notEligible (hook : String) (seq : Handle)
  | cleanupBegan (hooks : Nat) (unwind : Bool)
  | cleanupCompleted (completed : Nat)
  | cleanupFailed (failures completed : Nat)
  | moduleFailed (module : String) (registered : Nat) (error : String)
  | moduleLoaded (module : String) (hooks : Nat)
  | enteringMain
  | notEnteringMain (error : String)
  | mainReturned (status : Int32)
  | mainInterrupted (reason : Reason)
  | cleanupHookFailure (error : String)
  | pluginLoaded (plugin : String) (completed : Nat)
  | pluginStartupFailed (plugin error : String)
  | pluginCleanupSkipped (plugin error : String)
  | shutdownTriggered (reason : Reason) (subscribers : Nat)
  | shutdownLagged (missed : Nat)
  | settingsLoaded (level : String) (catchPanics unwind : Bool)
  | shutdownComplete (exitCode : Int32)
  deriving DecidableEq, Repr

/-- The parts of the program that speak. -/
inductive Source
  | program
  | table
  | invocation
  | loader
  | plugins
  | shutdown
  deriving DecidableEq, Repr

def Source.target : Source → String
  | program => "lifecycle_hooks"
  | table => "lifecycle_hooks::registry::table"
  | invocation => "lifecycle_hooks::registry::invoke"
  | loader => "lifecycle_hooks::lifecycle::loader"
  | plugins => "lifecycle_hooks::lifecycle::plugin"
  | shutdown => "lifecycle_hooks::lifecycle::shutdown"

namespace Event

def level : Event → Level
  | hookRegistered .. | atExitRegistered .. | invoking .. | notEligible .. | shutdownLagged ..
  | settingsLoaded .. => .debug
  | startupBegan .. | startupCompleted .. | cleanupBegan .. | cleanupCompleted ..
  | moduleLoaded .. | enteringMain | mainReturned .. | mainInterrupted .. | pluginLoaded ..
  | shutdownTriggered .. | shutdownComplete .. => .info
  | hookFailed .. | cleanupHookFailure .. => .warn
  | startupAborted .. | cleanupFailed .. | moduleFailed .. | notEnteringMain ..
  | pluginStartupFailed .. | pluginCleanupSkipped .. => .error

def source : Event → Source
  | hookRegistered .. | atExitRegistered .. | startupBegan .. | startupCompleted ..
  | startupAborted .. | notEligible .. | cleanupBegan .. | cleanupCompleted ..
  | cleanupFailed .. => .table
  | invoking .. | hookFailed .. => .invocation
  | moduleFailed .. | moduleLoaded .. | enteringMain | notEnteringMain .. | mainReturned ..
  | mainInterrupted .. | cleanupHookFailure .. => .loader
  | pluginLoaded .. | pluginStartupFailed .. | pluginCleanupSkipped .. => .plugins
  | shutdownTriggered .. | shutdownLagged .. => .shutdown
  | settingsLoaded .. | shutdownComplete .. => .program

/-- Whether the event says which registry it comes from. -/
def namesRegistry : Event → Bool
  | pluginLoaded .. => true
  | e => e.source == .table || e.source == .invocation

def message : Event → String
  | hookRegistered .. => "Hook registered"
  | atExitRegistered .. => "At-exit handler registered"
  | startupBegan .. => "Running startup hooks"
  | invoking .. => "Invoking hook"
  | hookFailed .. => "Hook failed"
  | startupCompleted .. => "Startup hooks completed"
  | startupAborted .. => "Startup aborted"
  | notEligible .. => "Cleanup hook not eligible"
  | cleanupBegan .. => "Running cleanup hooks"
  | cleanupCompleted .. => "Cleanup hooks completed"
  | cleanupFailed .. => "Cleanup finished with failures"
  | moduleFailed .. => "Module failed to load"
  | moduleLoaded .. => "Module loaded"
  | enteringMain => "Entering main"
  | notEnteringMain .. => "Not entering main"
  | mainReturned .. => "Main returned"
  | mainInterrupted .. => "Main interrupted, running cleanup"
  | cleanupHookFailure .. => "Cleanup hook failure"
  | pluginLoaded .. => "Plugin loaded"
  | pluginStartupFailed .. => "Plugin startup failed"
  | pluginCleanupSkipped .. => "Plugin cleanup skipped"
  | shutdownTriggered .. => "Shutdown triggered"
  | shutdownLagged .. => "Shutdown receiver lagged"
  | settingsLoaded .. => "Configuration loaded"
  | shutdownComplete .. => "Shutdown complete"

/-- The event's own fields; the registry it comes from is not among them. -/
def fields : Event → List (String × Json)
  | hookRegistered hook module phase seq priority =>
    [("hook", .str hook), ("module", .str (module.getD "-")), ("phase", .str phase.text),
      ("seq", .num seq), ("priority", .num priority)]
  | atExitRegistered hook seq => [("hook", .str hook), ("seq", .num seq)]
  | startupBegan hooks => [("hooks", .num hooks)]
  | invoking hook seq phase =>
    [("hook", .str hook), ("seq", .num seq), ("phase", .str phase.text)]
  | hookFailed hook seq phase error =>
    [("hook", .str hook), ("seq", .num seq), ("phase", .str phase.text), ("error", .str error)]
  | startupCompleted completed => [("completed", .num completed)]
  | startupAborted hook error skipped =>
    [("hook", .str hook), ("error", .str error), ("skipped", .num skipped)]
  | notEligible hook seq => [("hook", .str hook), ("seq", .num seq)]
  | cleanupBegan hooks unwind => [("hooks", .num hooks), ("unwind", .bool unwind)]
  | cleanupCompleted completed => [("completed", .num completed)]
  | cleanupFailed failures completed =>
    [("failures", .num failures), ("completed", .num completed)]
  | moduleFailed module registered error =>
    [("module", .str module), ("registered", .num registered), ("error", .str error)]
  | moduleLoaded module hooks => [("module", .str module), ("hooks", .num hooks)]
  | enteringMain => []
  | notEnteringMain error => [("error", .str error)]
  | mainReturned status => [("exit_status", .num status.toInt)]
  | mainInterrupted reason => [("reason", .str reason.text)]
  | cleanupHookFailure error => [("error", .str error)]
  | pluginLoaded plugin completed => [("plugin", .str plugin), ("completed", .num completed)]
  | pluginStartupFailed plugin error => [("plugin", .str plugin), ("error", .str error)]
  | pluginCleanupSkipped plugin error => [("plugin", .str plugin), ("error", .str error)]
  | shutdownTriggered reason subscribers =>
    [("reason", .str reason.text), ("subscribers", .num subscribers)]
  | shutdownLagged missed => [("missed", .num missed)]
  | settingsLoaded level catchPanics unwind =>
    [("log_level", .str level), ("catch_panics", .bool catchPanics),
      ("unwind_on_startup_failure", .bool unwind)]
  | shutdownComplete exitCode => [("exit_code", .num exitCode.toInt)]

/-- The names of all that an event carries, the registry and the time taken included. -/
def fieldNames (e : Event) : List String :=
  let taken := match e with
    | startupCompleted .. | cleanupCompleted .. => ["elapsed_ms"]
    | _ => []
  let origin := if e.namesRegistry then ["registry"] else []
  "message" :: origin ++ e.fields.map Prod.fst ++ taken

end Event
end Bookend

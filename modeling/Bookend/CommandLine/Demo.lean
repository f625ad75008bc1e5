import Bookend.CommandLine.Arguments
import Bookend.Launch.UntilShutdown
import Bookend.Log.Filter
import Bookend.Settings.Read

namespace Bookend.CommandLine

/-- A callback that says its word and fails when it is told to. -/
def spoken (word : String) (failing : Bool) (complaint : String) : Callback :=
  ⟨some word, [], if failing then .error complaint else .ok⟩

/-- The demo's one module: a hook at each end. -/
def fixture (o : Options) : Module where
  name := "fixture"
  steps :=
    [⟨.onStartup "my_startup"
        (spoken "startup" o.failStartup "startup hook told to fail"), false⟩,
      ⟨.onCleanup "my_cleanup"
        (spoken "cleanup" o.failCleanup "cleanup hook told to fail"), false⟩]

def task : Task := ⟨some "In main", [], .returns 0⟩

/-- What a run leaves for its caller to see. -/
structure Transcript where
  output : String
  report : Option LaunchReport
  format : LogFormat
  log : List Event
  failure : Option SettingsError
  status : UInt8

namespace Transcript

/-- Nothing happened but an exit. -/
def silent (failure : SettingsError) : Transcript := ⟨"", none, .pretty, [], some failure, 1⟩

/-- The program broke down before anything happened. -/
def broken : Transcript := ⟨"", none, .pretty, [], none, 101⟩

end Transcript

/-- The demo under settings that were found good, with its log already set up. -/
def demo (o : Options) (filter : LogFilter) (s : Settings) : Transcript :=
  let loading := (Loader.new s).load (fixture o)
  let session := loading.state.launchUntilShutdown .new task
  let journal := loading.effects ++ session.launch.effects
  let opening : Event := .settingsLoaded s.observability.logLevel s.registry.catchPanics
    s.registry.unwindOnStartupFailure
  let (report, closing, status) : Option LaunchReport × List Event × UInt8 :=
    match session.launch.result with
    | .value r => (some r, [.shutdownComplete r.exitCode], r.exitByte)
    | .error _ => (none, [], 1)
    | .panic _ => (none, [], 101)
  { output := String.join (journal.labels.map (· ++ "\n"))
    report := if o.report then report else none
    format := s.observability.logFormat
    log := (opening :: journal.events ++ closing).filter filter.admits
    failure := none
    status := status }

/-- The log comes first, and without a filter there is none. -/
def runUnder (o : Options) (environment : Option String) (s : Settings) : Transcript :=
  match LogFilter.choose environment s.observability with
  | some filter => demo o filter s
  | none => .broken

/-- A whole run. `file` is the settings file, if the options name one. -/
def run (o : Options) (environment : Option String)
    (file : Option (Except FileFault ByteArray)) : Transcript :=
  match file with
  | none => runUnder o environment {}
  | some f =>
    match Settings.load f with
    | .error e => .silent e
    | .ok s => runUnder o environment s

end Bookend.CommandLine

import Bookend.Registry.Basic
import Bookend.Text.Record

namespace Bookend

def Phase.word : Phase → String
  | startup => "Startup"
  | cleanup => "Cleanup"

def Stage.word : Stage → String
  | collecting => "Collecting"
  | startupRunning => "StartupRunning"
  | ready => "Ready"
  | cleanupRunning => "CleanupRunning"
  | done => "Done"

namespace Registry

/-- A registry is shown by its name, its stage and the sizes of its tables. -/
def summary (r : Registry) (id : String) : List (String × String) :=
  [("id", id), ("state", r.stage.word), ("startup", toString r.startup.length),
    ("cleanup", toString r.cleanup.length), ("at_exit", toString r.atExit.length)]

def display (r : Registry) (id : String) : String := Text.record "HookRegistry" (r.summary id)

def displayLines (r : Registry) (id : String) : String :=
  Text.recordLines "HookRegistry" (r.summary id)

end Registry

/-- The callback itself is never shown, only whether there is one. -/
def Spec.display (s : Spec) : String :=
  Text.record "HookSpec"
    [("phase", s.role.phase.word), ("name", Text.option Text.quote s.name),
      ("module", Text.option Text.quote s.module),
      ("priority", Text.option (fun n : Int => toString n) s.priority),
      ("releases",
        Text.option (fun h : Handle => "HookHandle(" ++ toString h ++ ")") s.role.releases),
      ("has_callback", Text.bool s.callback.isSome)]

end Bookend

import Bookend.Hook
import Bookend.Json

namespace Bookend

/-- A callback that returned an error or panicked. -/
structure Failure where
  handle : Handle
  name : String
  module : Option String
  phase : Phase
  message : String
  deriving DecidableEq, Repr

namespace Failure

def ofHook (k : Hook) (message : String) : Failure :=
  ⟨k.handle, k.name, k.module, k.phase, message⟩

def text (f : Failure) : String :=
  f.phase.text ++ " hook `" ++ f.name ++ "` (" ++ f.handle.text ++ ") failed: " ++ f.message

def toJson (f : Failure) : Json :=
  .obj [("handle", .num f.handle), ("name", .str f.name), ("module", Json.ofOption .str f.module),
    ("phase", .str f.phase.text), ("message", .str f.message)]

end Failure

/-- What one pass did: the hooks it called in call order, those of them that
succeeded, those it passed over, and every failure. -/
structure PassReport where
  phase : Phase
  invoked : List Handle
  completed : List Handle
  skipped : List Handle
  failures : List Failure
  deriving DecidableEq, Repr

namespace PassReport

def empty (p : Phase) : PassReport := ⟨p, [], [], [], []⟩

def success (r : PassReport) : Bool := r.failures.isEmpty

def handles (hs : List Handle) : Json := .arr (hs.map fun h => .num (Int.ofNat h))

/-- Clocks stand outside this library, so a printed pass took no time. -/
def noTime : Json := .obj [("secs", .num 0), ("nanos", .num 0)]

def toJson (r : PassReport) : Json :=
  .obj [("phase", .str r.phase.text), ("invoked", handles r.invoked),
    ("completed", handles r.completed), ("skipped", handles r.skipped),
    ("failures", .arr (r.failures.map Failure.toJson)), ("elapsed", noTime)]

end PassReport
end Bookend

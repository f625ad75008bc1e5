import Bookend.Event
import Bookend.Settings.Basic

namespace Bookend

namespace Event

/-- One event as a line of the log, for machines. -/
def toJson (e : Event) : Json :=
  .obj [("level", .str e.level.text.toUpper),
    ("fields", .obj (("message", .str e.message) :: e.fields)),
    ("target", .str e.source.target)]

def fieldText : Json → String
  | .str s => s
  | v => v.compact

/-- The same for people. -/
def toText (e : Event) : String :=
  e.level.text.toUpper ++ " " ++ e.source.target ++ ": " ++ e.message ++
    String.join (e.fields.map fun f => " " ++ f.1 ++ "=" ++ fieldText f.2)

def toLine (e : Event) : LogFormat → String
  | .json => e.toJson.compact
  | .pretty => e.toText

end Event
end Bookend

import Bookend.Log.Directive
import Bookend.Settings.Basic

namespace Bookend

/-- Which events are printed: the directives in the order in which they were given. -/
structure LogFilter where
  directives : List LogDirective
  deriving DecidableEq, Repr

namespace LogFilter

/-- Reads a filter that must be right in every piece. The first fault ends the reading. -/
def read (s : String) : Except PieceFault LogFilter :=
  ((LogDirective.pieces s).mapM LogDirective.ofPiece).map LogFilter.mk

/-- Where nothing else is said, errors are printed. -/
def ofDirectives (ds : List LogDirective) : LogFilter :=
  if ds.isEmpty then ⟨[{ threshold := .least .error }]⟩ else ⟨ds⟩

/-- A piece as the loose reading takes it: what is malformed is passed over, and what is torn
ends the reading. -/
def takeLoosely (piece : String) : Option (Option LogDirective) :=
  match LogDirective.ofPiece piece with
  | .ok d => some (some d)
  | .error .malformed => some none
  | .error .torn => none

def readLoosely (s : String) : Option LogFilter :=
  ((LogDirective.pieces s).mapM takeLoosely).map fun ds => ofDirectives (ds.filterMap id)

def ofSettings (o : Observability) : Option LogFilter :=
  readLoosely (Source.program.target ++ "=" ++ o.logLevel.toLower)

/-- The environment has the last word, if it can be understood. A torn piece leaves no filter,
wherever it stands: it is not a thing to fall back from. -/
def choose (environment : Option String) (o : Observability) : Option LogFilter :=
  match environment.map read with
  | some (.ok f) => some f
  | some (.error .torn) => none
  | some (.error .malformed) | none => ofSettings o

def forEvents (f : LogFilter) : List LogDirective :=
  LogDirective.ranked (f.directives.filter LogDirective.onEvents)

def forSpans (f : LogFilter) : List LogDirective :=
  LogDirective.ranked (f.directives.filter LogDirective.onSpans)

def text (f : LogFilter) : String :=
  ",".intercalate ((f.forEvents ++ f.forSpans).map LogDirective.text)

/-- What no event can get below. A directive that asks for a value leaves that open, for
values are known only once a span is under way; one that was replaced still counts. -/
def bound (f : LogFilter) : Threshold :=
  if f.directives.any fun d => d.field.any (·.value.isSome) then .least .trace
  else (f.directives.map LogDirective.threshold).foldl .wider .off

/-- The most specific directive that an event falls under decides. -/
def admits (f : LogFilter) (e : Event) : Bool :=
  (f.forEvents.find? (·.concerns e)).any (·.threshold.passes e.level)

end LogFilter
end Bookend

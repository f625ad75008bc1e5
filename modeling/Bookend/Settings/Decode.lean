import Bookend.Settings.Basic
import Bookend.Settings.Data

namespace Bookend

/-- Where notations differ in how they stand for a record. -/
structure Dialect where
  /-- A list may be longer than the record it stands for. -/
  surplus : Bool
  /-- A date stands for a record with nothing set. -/
  dateAsRecord : Bool
  /-- What may follow the name of a choice that carries nothing. -/
  noPayload : Data → Bool

namespace Dialect

def json : Dialect := ⟨false, false, Data.isNull⟩

def toml : Dialect := ⟨true, true, Data.isHollow⟩

/-- Finds the fields of a record of `size` fields: in a table by name, in a list by
place. A field that is not set is not found. -/
def record? (d : Dialect) (size : Nat) : Data → Option (Nat → String → Option Data)
  | .table entries => some fun _ name => entries.lookup name
  | .list items =>
    if d.surplus || items.length ≤ size then some fun place _ => items[place]? else none
  | .moment _ => if d.dateAsRecord then some fun _ _ => none else none
  | _ => none

end Dialect

/-- A field that is not set keeps its default; one that is must be readable. -/
def orDefault (default : α) (read : Data → Option α) : Option Data → Option α
  | none => some default
  | some v => read v

namespace Data

def bool? : Data → Option Bool
  | bool b => some b
  | _ => none

def text? : Data → Option String
  | text s => some s
  | _ => none

def ofInt32 (n : Int32) : Data := int n.toInt

/-- Only whole numbers of 32 bits. -/
def int32? : Data → Option Int32
  | int n =>
    if Int32.minValue.toInt ≤ n ∧ n ≤ Int32.maxValue.toInt then some (Int32.ofInt n) else none
  | _ => none

end Data

namespace LogFormat

def ofName? (s : String) : Option LogFormat :=
  [pretty, json].find? fun f => f.text == s

/-- A choice is its name, or a table with the name as its only key. -/
def decode (d : Dialect) : Data → Option LogFormat
  | .text s => ofName? s
  | .table [(name, payload)] => if d.noPayload payload then ofName? name else none
  | _ => none

def encode (f : LogFormat) : Data := .text f.text

end LogFormat

namespace Observability

def decode (d : Dialect) (v : Data) : Option Observability := do
  let get ← d.record? 2 v
  let level ← orDefault (({} : Observability).logLevel) Data.text? (get 0 "log_level")
  let format ← orDefault (({} : Observability).logFormat) (LogFormat.decode d)
    (get 1 "log_format")
  return ⟨level, format⟩

def encode (o : Observability) : Data :=
  .table [("log_level", .text o.logLevel), ("log_format", o.logFormat.encode)]

end Observability

namespace HookRules

def decode (d : Dialect) (v : Data) : Option HookRules := do
  let get ← d.record? 2 v
  let catching ← orDefault (({} : HookRules).catchPanics) Data.bool? (get 0 "catch_panics")
  let unwinding ← orDefault (({} : HookRules).unwindOnStartupFailure) Data.bool?
    (get 1 "unwind_on_startup_failure")
  return ⟨catching, unwinding⟩

def encode (r : HookRules) : Data :=
  .table [("catch_panics", .bool r.catchPanics),
    ("unwind_on_startup_failure", .bool r.unwindOnStartupFailure)]

end HookRules

namespace ExitCodes

def decode (d : Dialect) (v : Data) : Option ExitCodes := do
  let get ← d.record? 2 v
  let startup ← orDefault (({} : ExitCodes).startupFailure) Data.int32?
    (get 0 "startup_failure_code")
  let cleanup ← orDefault (({} : ExitCodes).cleanupFailure) Data.int32?
    (get 1 "cleanup_failure_code")
  return ⟨startup, cleanup⟩

def encode (e : ExitCodes) : Data :=
  .table [("startup_failure_code", .ofInt32 e.startupFailure),
    ("cleanup_failure_code", .ofInt32 e.cleanupFailure)]

end ExitCodes

namespace Settings

/-- Keys that no record knows are passed over. -/
def decode (d : Dialect) (v : Data) : Option Settings := do
  let get ← d.record? 3 v
  let observability ← orDefault {} (Observability.decode d) (get 0 "observability")
  let registry ← orDefault {} (HookRules.decode d) (get 1 "registry")
  let exit ← orDefault {} (ExitCodes.decode d) (get 2 "exit")
  return ⟨observability, registry, exit⟩

def encode (s : Settings) : Data :=
  .table [("observability", s.observability.encode), ("registry", s.registry.encode),
    ("exit", s.exit.encode)]

end Settings
end Bookend

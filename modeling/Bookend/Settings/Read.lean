import Bookend.Settings.Check
import Bookend.Settings.Decode
import Bookend.Text.Record
import Bookend.Toml.Document

namespace Bookend

/-- Why a file could not be read as text. -/
inductive FileFault
  | missing
  | directory
  | notText
  deriving DecidableEq, Repr

def FileFault.text : FileFault → String
  | missing => "No such file or directory (os error 2)"
  | directory => "Is a directory (os error 21)"
  | notText => "stream did not contain valid UTF-8"

/-- Why there are no settings. -/
inductive SettingsError
  | file (f : FileFault)
  | parse
  | validation (faults : List Fault)
  deriving DecidableEq, Repr

namespace SettingsError

/-- What is wrong with a document as such is left to its notation. -/
def message : SettingsError → String
  | file f => "IO error: " ++ f.text
  | parse => "Parse error"
  | validation fs => "Validation failed: " ++ ", ".intercalate (fs.map Fault.text)

end SettingsError

def Fault.display : Fault → String
  | unknownLogLevel level => "UnknownLogLevel(" ++ Text.quote level ++ ")"
  | exitCodeOutOfRange field value =>
    Text.record "ExitCodeOutOfRange"
      [("field", Text.quote field.key), ("value", toString value.toInt)]
  | ambiguousExitCodes value => "AmbiguousExitCodes(" ++ toString value.toInt ++ ")"

/-- The error as a value, each broken rule in turn. -/
def SettingsError.display : SettingsError → String
  | file _ => "Io"
  | parse => "Parse"
  | validation fs => "Validation([" ++ ", ".intercalate (fs.map Fault.display) ++ "])"

namespace Settings

/-- The settings that a text holds, whether or not they keep the rules. -/
def ofText? (text : String) : Option Settings := (Toml.read text.toList).bind (decode .toml)

def parse (text : String) : Except SettingsError Settings :=
  match ofText? text with
  | none => .error .parse
  | some s =>
    match s.check with
    | .error fs => .error (.validation fs)
    | .ok s => .ok s

/-- The same from the bytes of a file, or from the reason that there are none. -/
def load (file : Except FileFault ByteArray) : Except SettingsError Settings :=
  match file with
  | .error f => .error (.file f)
  | .ok bytes =>
    match String.fromUTF8? bytes with
    | none => .error (.file .notText)
    | some text => parse text

end Settings
end Bookend

namespace Bookend.CommandLine

/-- What the command line may ask for, each at most once. -/
structure Options where
  config : Option String := none
  failStartup : Bool := false
  failCleanup : Bool := false
  report : Bool := false
  deriving DecidableEq, Repr

inductive Flag
  | failStartup
  | failCleanup
  | report
  deriving DecidableEq, Repr

/-- What comes of reading the arguments. -/
inductive Command
  | run (o : Options)
  | help
  | usageError
  deriving DecidableEq, Repr

namespace Options

def has (o : Options) : Flag → Bool
  | .failStartup => o.failStartup
  | .failCleanup => o.failCleanup
  | .report => o.report

def raise (o : Options) : Flag → Options
  | .failStartup => { o with failStartup := true }
  | .failCleanup => { o with failCleanup := true }
  | .report => { o with report := true }

/-- The path may be given once and may not be empty. -/
def setConfig? (o : Options) (path : String) : Option Options :=
  if o.config.isSome || path.isEmpty then none else some { o with config := some path }

end Options

/-- One argument by its form. -/
inductive Argument
  | flag (f : Flag)
  | config
  | configIs (path : String)
  | help
  | endOfOptions
  | other
  deriving DecidableEq, Repr

/-- A short option's value follows at once or behind an equals sign. -/
def shortValue : List Char → List Char
  | '=' :: r => r
  | r => r

def Argument.ofString (s : String) : Argument :=
  match s with
  | "--" => endOfOptions
  | "--config" => config
  | "-c" => config
  | "--fail-startup" => flag .failStartup
  | "--fail-cleanup" => flag .failCleanup
  | "--report" => flag .report
  | "--help" => help
  | _ =>
    match s.toList with
    | '-' :: 'h' :: _ => help
    | '-' :: 'c' :: r => configIs (String.ofList (shortValue r))
    | '-' :: '-' :: 'c' :: 'o' :: 'n' :: 'f' :: 'i' :: 'g' :: '=' :: r => configIs (String.ofList r)
    | _ => other

/-- An argument that starts like an option is never taken for a value; a lone dash is. -/
def looksLikeOption (s : String) : Bool :=
  match s.toList with
  | '-' :: _ :: _ => true
  | _ => false

/-- Arguments are judged from left to right; the first request for help or the first
mistake decides. -/
def parseFrom (o : Options) : List String → Command
  | [] => .run o
  | s :: rest =>
    match Argument.ofString s with
    | .help => .help
    | .other => .usageError
    | .endOfOptions => if rest.isEmpty then .run o else .usageError
    | .flag f => if o.has f then .usageError else parseFrom (o.raise f) rest
    | .configIs path =>
      match o.setConfig? path with
      | some o' => parseFrom o' rest
      | none => .usageError
    | .config =>
      match rest with
      | [] => .usageError
      | path :: rest' =>
        if looksLikeOption path then .usageError
        else
          match o.setConfig? path with
          | some o' => parseFrom o' rest'
          | none => .usageError

def parse (args : List String) : Command := parseFrom {} args

def helpLines : List String :=
  ["Run startup and cleanup hooks around a demo main",
    "",
    "Usage: lifecycle-hooks [OPTIONS]",
    "",
    "Options:",
    "  -c, --config <CONFIG>  TOML configuration file",
    "      --fail-startup     Make the startup hook fail (main is skipped)",
    "      --fail-cleanup     Make the cleanup hook fail",
    "      --report           Print the launch report as JSON to stderr",
    "  -h, --help             Print help"]

def helpText : String := String.join (helpLines.map (· ++ "\n"))

end Bookend.CommandLine

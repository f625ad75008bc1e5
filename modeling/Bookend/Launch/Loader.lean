import Bookend.Launch.Report
import Bookend.Module

namespace Bookend

/-- Hosts one program: modules are loaded one after another, then the program is
launched once. -/
structure Loader where
  registry : Registry
  modules : List String
  failed : Option String
  codes : ExitCodes
  deriving DecidableEq, Repr

/-- How main ends. -/
inductive Finish
  | returns (status : Int32)
  | panics (p : Payload)
  deriving DecidableEq, Repr

/-- A main that works on the registry it is given. -/
structure Program where
  label : Option String
  ops : List Op
  finish : Finish
  deriving DecidableEq, Repr

/-- Main from the moment it is entered: its own calls step by step, how it ended, and
what it left of the registry. -/
structure MainRun where
  trail : List (Turn Registry (Ending Answer))
  finish : Finish
  registry : Registry
  effects : Journal

/-- A launch as a whole. Main's registry is there only if main was entered. -/
structure Launch where
  result : Ending LaunchReport
  entered : Option Registry
  trail : List (Turn Registry (Ending Answer))
  registry : Registry
  effects : Journal

namespace Program

def run (p : Program) (r : Registry) : MainRun :=
  let trail := r.trail p.ops
  let returned : Journal :=
    match p.finish with
    | .returns s => [.event (.mainReturned s)]
    | .panics _ => []
  ⟨trail, p.finish, r.run p.ops, .main p.label [] :: journalOf trail ++ returned⟩

end Program

namespace Loader

def new (s : Settings) : Loader := ⟨.new s.registry, [], none, s.exit⟩

/-- A module that fails keeps what it registered before, and the loader remembers the
first one that did. -/
def load (l : Loader) (m : Module) : Turn Loader Enrolled :=
  let t := m.enrol l.registry
  let count := t.state.handles.length
  match t.answer.result with
  | .error e =>
    ⟨t.answer, { l with registry := t.state.registry, failed := l.failed <|> some m.name },
      t.effects ++ [.event (.moduleFailed m.name count e.message)]⟩
  | .ok _ =>
    ⟨t.answer, { l with registry := t.state.registry, modules := l.modules ++ [m.name] },
      t.effects ++ [.event (.moduleLoaded m.name count)]⟩

def loadAll (l : Loader) : List Module → List (Turn Loader Enrolled)
  | [] => []
  | m :: ms =>
    let t := l.load m
    t :: t.state.loadAll ms

/-- The loader after a list of modules. -/
def loaded (l : Loader) (ms : List Module) : Loader := ms.foldl (fun l m => (l.load m).state) l

/-- What comes after main: the cleanup pass, unless main panicked. -/
def finish (l : Loader) (startup : PassReport) (m : MainRun) :
    Turn Registry (Ending LaunchReport) :=
  match m.finish with
  | .panics p => .still m.registry (.panic p)
  | .returns status =>
    let t := m.registry.runCleanup
    match t.answer with
    | .panic p => ⟨.panic p, t.state, t.effects⟩
    | .error e => ⟨.error e, t.state, t.effects⟩
    | .value cleanup =>
      ⟨.value ⟨.completed startup status cleanup, l.codes⟩, t.state,
        t.effects ++ cleanup.failures.map fun f => .event (.cleanupHookFailure f.text)⟩

/-- The startup pass, then `main` if it may be entered, then the cleanup pass. Main is
told what startup left besides the registry. -/
def around (l : Loader) (main : Registry → Journal → MainRun) : Launch :=
  match l.failed with
  | some m => ⟨.error (.incompleteLoad m), none, [], l.registry, []⟩
  | none =>
    let up := l.registry.runStartup
    match up.answer with
    | .panic p => ⟨.panic p, none, [], up.state, up.effects⟩
    | .error (.callbackFailure failure startup unwind) =>
      ⟨.value ⟨.startupAborted failure startup unwind, l.codes⟩, none, [], up.state,
        up.effects ++ [.event (.notEnteringMain failure.text)]⟩
    | .error e => ⟨.error e, none, [], up.state, up.effects⟩
    | .value startup =>
      let m := main up.state up.effects
      let down := l.finish startup m
      ⟨down.answer, some up.state, m.trail, down.state,
        up.effects ++ .event .enteringMain :: m.effects ++ down.effects⟩

def launch (l : Loader) (p : Program) : Launch := l.around fun r _ => p.run r

end Loader
end Bookend

import Bookend.Module

namespace Bookend

/-- A plugin that started, with the registry of its own and that registry's number. -/
structure Plugin where
  name : String
  number : Nat
  registry : Registry
  deriving DecidableEq, Repr

/-- What a plugin's registry left, and where. -/
structure Tagged where
  number : Nat
  effect : Effect
  deriving DecidableEq, Repr

def tag (n : Nat) (j : Journal) : List Tagged := j.map (Tagged.mk n)

/-- Plugins that are loaded while the program runs, the newest first. -/
structure Host where
  rules : HookRules
  count : Nat
  loaded : List Plugin
  deriving DecidableEq, Repr

structure HostTurn (α : Type) where
  answer : α
  host : Host
  effects : List Tagged

/-- What came of loading a plugin: its registrations and, if they all went well, its
startup pass. -/
structure Loading where
  enrolled : Enrolled
  result : Ending PassReport

/-- The cleanup of one plugin. -/
structure PluginCleanup where
  plugin : String
  report : PassReport
  deriving DecidableEq, Repr

namespace Host

def new (rules : HookRules) : Host := ⟨rules, 0, []⟩

/-- The names of the plugins in the order they were loaded. -/
def names (h : Host) : List String := (h.loaded.map Plugin.name).reverse

/-- A plugin registers in a fresh registry and is started at once. Only one that starts
is kept. -/
def load (h : Host) (m : Module) : HostTurn Loading :=
  let n := h.count + 1
  let later : Host := { h with count := n }
  let t := m.enrol (.new h.rules)
  match t.answer.result with
  | .error e => ⟨⟨t.answer, .error e⟩, later, tag n t.effects⟩
  | .ok _ =>
    let up := t.state.registry.runStartup
    let left := t.effects ++ up.effects
    match up.answer with
    | .panic p => ⟨⟨t.answer, .panic p⟩, later, tag n left⟩
    | .error e =>
      ⟨⟨t.answer, .error e⟩, later,
        tag n (left ++ [.event (.pluginStartupFailed m.name e.message)])⟩
    | .value report =>
      ⟨⟨t.answer, .value report⟩,
        { later with loaded := ⟨m.name, n, up.state⟩ :: h.loaded },
        tag n (left ++ [.event (.pluginLoaded m.name report.completed.length)])⟩

/-- Cleans up from the newest plugin on. A panic takes away the plugin it comes from and
leaves those below it loaded. -/
def unload : List Plugin → Except Payload (List PluginCleanup) × List Plugin × List Tagged
  | [] => (.ok [], [], [])
  | p :: ps =>
    let down := p.registry.runCleanup
    match down.answer with
    | .panic payload => (.error payload, ps, tag p.number down.effects)
    | .error e =>
      let (rest, left, effects) := unload ps
      (rest, left,
        tag p.number (down.effects ++ [.event (.pluginCleanupSkipped p.name e.message)]) ++
          effects)
    | .value report =>
      let (rest, left, effects) := unload ps
      (rest.map (⟨p.name, report⟩ :: ·), left, tag p.number down.effects ++ effects)

def shutdown (h : Host) : HostTurn (Except Payload (List PluginCleanup)) :=
  let (answer, left, effects) := unload h.loaded
  ⟨answer, { h with loaded := left }, effects⟩

end Host

/-- A call on a host. -/
inductive HostOp
  | load (m : Module)
  | shutdown
  deriving DecidableEq, Repr

inductive HostReply
  | loading (l : Loading)
  | cleanups (answer : Except Payload (List PluginCleanup))

namespace Host

def perform (h : Host) : HostOp → HostTurn HostReply
  | .load m => ⟨.loading (h.load m).answer, (h.load m).host, (h.load m).effects⟩
  | .shutdown => ⟨.cleanups h.shutdown.answer, h.shutdown.host, h.shutdown.effects⟩

def trail (h : Host) : List HostOp → List (HostTurn HostReply)
  | [] => []
  | op :: ops =>
    let t := h.perform op
    t :: t.host.trail ops

end Host
end Bookend

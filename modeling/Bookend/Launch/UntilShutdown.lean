import Bookend.Launch.Loader
import Bookend.Shutdown.Channel

namespace Bookend

/-- A main that waits to be told: it leaves its label and sends reasons, and if any
reason is out by then it never comes back. -/
structure Task where
  label : Option String
  sends : List Reason
  finish : Finish
  deriving DecidableEq, Repr

/-- A launch together with the channel that it leaves behind. -/
structure Session where
  launch : Launch
  channel : Channel

namespace Task

/-- The task on a channel that carries whatever startup sent; `rx` is the launcher's
own receiver. -/
def run (t : Task) (c : Channel) (rx : Nat) (startup : Journal) (r : Registry) : MainRun :=
  let sent := startup.sends ++ t.sends
  let heard := (c.sendAll sent).poll rx
  let called : Effect := .main t.label t.sends
  match t.finish, sent, heard.answer with
  | .panics p, _, _ => ⟨[], .panics p, r, [called]⟩
  | .returns _, _ :: _, some reason =>
    ⟨[], .returns reason.exitStatus, r,
      called :: heard.effects ++ [.event (.mainInterrupted reason)]⟩
  | .returns s, _, _ => ⟨[], .returns s, r, [called, .event (.mainReturned s)]⟩

end Task

namespace Loader

/-- Like `launch`, but main is cut short by the first shutdown reason. The launcher
listens from before the startup pass until it is done. -/
def launchUntilShutdown (l : Loader) (c : Channel) (t : Task) : Session :=
  let listening := c.subscribe
  let launch := l.around fun r startup => t.run listening.state listening.answer startup r
  { launch :=
      { launch with effects := launch.effects.announced listening.state.receiverCount }
    channel := (listening.state.sendAll launch.effects.sends).dropReceiver listening.answer }

end Loader
end Bookend

import Fanout.Run.Shutdown
import Fanout.Log.Event

/-!
# Stop requests from operator signals

A listener turns the operator's signals into stop requests on a shutdown handle: an interrupt
or a termination signal is one request each, and a hang-up is ignored, so that closing a
terminal does not stop a run. The listener ends once a request forced the stop; signals after
that change nothing.
-/

namespace Fanout

/-- A signal the operator may send. -/
inductive OsSignal where
  | interrupt
  | terminate
  | hangup
  deriving Inhabited, DecidableEq, Repr

namespace OsSignal

/-- The signal's name. -/
def name : OsSignal → String
  | .interrupt => "SIGINT"
  | .terminate => "SIGTERM"
  | .hangup => "SIGHUP"

end OsSignal

/-- The event target of the listener. -/
def shutdownTarget : String := "fanrun.core.shutdown"

/-- A listener and the handle it requests stops on. -/
structure Listener where
  handle : Shutdown := {}
  finished : Bool := false
  deriving Inhabited, DecidableEq, Repr

namespace Listener

/-- Deliver one signal: the listener afterwards and the events it reports. -/
def deliver (l : Listener) (s : OsSignal) : Listener × List Log.Event :=
  if l.finished then (l, [])
  else
    match s with
    | .hangup =>
      (l, [{ level := .info, target := shutdownTarget, message := "received SIGHUP, ignoring" }])
    | _ =>
      let (forced, h) := l.handle.request
      if forced then
        ({ handle := h, finished := true },
          [{ level := .warn, target := shutdownTarget,
             message := "second shutdown request, forcing termination",
             fields := [("signal", .str s.name)] }])
      else
        ({ l with handle := h },
          [{ level := .info, target := shutdownTarget,
             message := "shutdown requested, finishing running tasks",
             fields := [("signal", .str s.name)] }])

/-- A hang-up never changes the handle. -/
theorem deliver_hangup (l : Listener) : (l.deliver .hangup).1 = l := by
  unfold deliver
  split <;> rfl

end Listener

end Fanout

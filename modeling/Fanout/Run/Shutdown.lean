/-!
# Shutdown requests

A run is asked to stop through a shared handle. The first request asks for a graceful stop:
no more jobs are dispatched and the running ones are cancelled. Any later request forces the
stop; `force` forces it at once. Requests are counted, so two requests from two holders of the
handle force the stop as two from one would.

A worker sees two signals: its job was cancelled, and the stop was forced.
-/

namespace Fanout

/-- The shared state of a shutdown handle. -/
structure Shutdown where
  requests : Nat := 0
  /-- A stop was requested. -/
  requested : Bool := false
  /-- The stop was forced. -/
  forced : Bool := false
  deriving Inhabited, DecidableEq, Repr

namespace Shutdown

/-- Ask for a stop; whether this request forced it, because an earlier one came first. -/
def request (s : Shutdown) : Bool × Shutdown :=
  if s.requests > 0 then (true, { s with requests := s.requests + 1, requested := true, forced := true })
  else (false, { s with requests := s.requests + 1, requested := true })

/-- Force the stop at once. -/
def force (s : Shutdown) : Shutdown :=
  { requests := s.requests + 1, requested := true, forced := true }

theorem request_first {s : Shutdown} (h : s.requests = 0) :
    (s.request).1 = false ∧ (s.request).2.forced = s.forced := by
  simp [request, h]

theorem request_again {s : Shutdown} (h : 0 < s.requests) :
    (s.request).1 = true ∧ (s.request).2.forced = true := by
  simp [request, h]

end Shutdown

/-- The two signals a worker watches. -/
structure StopSignals where
  cancelled : Bool := false
  forced : Bool := false
  deriving Inhabited, DecidableEq, Repr

/-- Cancel the job; cancelling twice is cancelling once. -/
def StopSignals.cancel (s : StopSignals) : StopSignals := { s with cancelled := true }

end Fanout

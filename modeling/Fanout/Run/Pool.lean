import Fanout.Job.Outcome
import Fanout.Run.Summary

/-!
# The worker pool

The bookkeeping of a run: the jobs still waiting (first in, first out), the jobs in flight
under their keys, the free worker slots (the lowest is taken first), and the counters of
finished outcomes. A job is dispatched only while no shutdown was requested, a job waits and a
slot is free; its position in the run counts from 1, and so do keys and slots.

An outcome is recorded into three buckets: successes, failures (failed, timed out, errored) and
the rest, which count as cancelled. Every outcome that is not a success extends the run of
consecutive unsuccessful outcomes; a success ends it.
-/

namespace Fanout

/-- What a worker is given: the job, its position in the run and its slot. -/
structure Dispatch where
  job : Job
  taskIndex : Nat
  workerId : Nat
  deriving Inhabited, DecidableEq, Repr

/-- A job in flight. -/
structure Flight where
  dispatch : Dispatch
  /-- When it was dispatched, in milliseconds. -/
  startedAt : Nat
  deriving Inhabited, DecidableEq, Repr

/-- The record of a job whose worker went away without reporting: an error, with the time the
job was dispatched kept. -/
def Flight.lost (f : Flight) (reason : String) (now : Nat := 0) : Outcome :=
  { Outcome.started f.dispatch.job f.dispatch.taskIndex f.dispatch.workerId f.startedAt with
    endTime := now, status := .error, errorMessage := "Error: " ++ reason }

/-- Insert a slot into a list sorted upwards. -/
def insertSlot (w : Nat) : List Nat → List Nat
  | [] => [w]
  | s :: ss => if w ≤ s then w :: s :: ss else s :: insertSlot w ss

/-- The state of a run's pool. -/
structure Pool where
  total : Nat
  pending : List Job
  /-- Jobs in flight by key, in the order of their keys. -/
  inFlight : List (Nat × Flight)
  /-- Free slots, lowest first. -/
  freeSlots : List Nat
  lastKey : Nat := 0
  dispatched : Nat := 0
  totalCompleted : Nat := 0
  consecutiveFailures : Nat := 0
  completed : Nat := 0
  failed : Nat := 0
  cancelledOutcomes : Nat := 0
  shutdownRequested : Bool := false
  deriving Inhabited

namespace Pool

/-- A pool for `jobs` with slots `1 … workers`. -/
def make (jobs : List Job) (workers : Nat) : Pool :=
  { total := jobs.length, pending := jobs, inFlight := [],
    freeSlots := (List.range workers).map (· + 1) }

/-- Whether a job can be dispatched now. -/
def canDispatch (p : Pool) : Bool :=
  !p.shutdownRequested && !p.pending.isEmpty && !p.freeSlots.isEmpty

/-- Dispatch the first waiting job to the lowest free slot, at time `now`: its key and what the
worker is given. -/
def dispatchNext (p : Pool) (now : Nat := 0) : Option (Nat × Dispatch) × Pool :=
  if p.shutdownRequested then (none, p)
  else
    match p.freeSlots, p.pending with
    | w :: ws, job :: rest =>
      let key := p.lastKey + 1
      let d : Dispatch := ⟨job, p.dispatched + 1, w⟩
      (some (key, d),
        { p with freeSlots := ws, pending := rest, dispatched := p.dispatched + 1, lastKey := key,
                 inFlight := p.inFlight ++ [(key, ⟨d, now⟩)] })
    | _, _ => (none, p)

/-- Take the job of key `k` out of flight and free its slot. -/
def complete (p : Pool) (k : Nat) : Option Flight × Pool :=
  match p.inFlight.find? (·.1 == k) with
  | some (_, f) =>
    (some f, { p with inFlight := p.inFlight.filter (·.1 != k),
                      freeSlots := insertSlot f.dispatch.workerId p.freeSlots })
  | none => (none, p)

/-- Count a finished outcome of status `s`. -/
def record (p : Pool) (s : Status) : Pool :=
  let p := { p with totalCompleted := p.totalCompleted + 1 }
  if s.isSuccess then { p with completed := p.completed + 1, consecutiveFailures := 0 }
  else
    let p := { p with consecutiveFailures := min (p.consecutiveFailures + 1) halfWordMax }
    if s.isFailure then { p with failed := p.failed + 1 }
    else { p with cancelledOutcomes := p.cancelledOutcomes + 1 }

/-- Stop dispatching; whether this is the first request. -/
def requestShutdown (p : Pool) : Bool × Pool :=
  (!p.shutdownRequested, { p with shutdownRequested := true })

/-- Take every job out of flight, in the order of their keys, freeing their slots. -/
def takeInFlight (p : Pool) : List Flight × Pool :=
  let flights := p.inFlight.map (·.2)
  let slots := flights.foldl (fun s f => insertSlot f.dispatch.workerId s) p.freeSlots
  (flights, { p with inFlight := [], freeSlots := slots })

/-- The summary of the run so far, stopped for `reason`. -/
def summary (p : Pool) (reason : StopReason) : Except Abort Summary :=
  Summary.make p.total p.completed p.failed reason

end Pool

end Fanout

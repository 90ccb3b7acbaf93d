import Fanout.Job.Basic
import Fanout.Job.Status
import Fanout.Count

/-!
# Job outcomes

The record of one dispatched job: where and when it ran, its final status and message, the exit
code when the process exited by itself, the command line that was run, and the kept tail of its
output. A record starts pending and is sealed once with a final status.

Times are milliseconds on the run's clock.
-/

namespace Fanout

/-- The record of one dispatched job. -/
structure Outcome where
  startTime : Nat := 0
  endTime : Nat := 0
  status : Status := .pending
  /-- The process id of the job's process, once one was started. -/
  childPid : Option Nat := none
  workerId : Nat
  taskIndex : Nat
  /-- The identity of the job. -/
  task : String
  /-- The command line that was run; empty when none was built. -/
  command : String := ""
  /-- Present only when the process exited by itself. -/
  exitCode : Option Int := none
  durationSecs : Float := 0.0
  memoryMb : Float := 0.0
  cpuPercent : Float := 0.0
  errorMessage : String := ""
  stdout : String := ""
  stderr : String := ""
  deriving Inhabited

namespace Outcome

/-- A pending record for `job`, dispatched as `index` to worker `worker` at time `now`. -/
def started (job : Job) (index worker : Nat) (now : Nat := 0) : Outcome :=
  { startTime := now, endTime := now, workerId := worker, taskIndex := index, task := job.identity }

/-- The refusal to seal a record with a status that is not final. -/
def notTerminal : Abort := ⟨"assertion failed: status.is_terminal()"⟩

/-- Seal the record at time `now` with a final status and its message. -/
def finish (o : Outcome) (status : Status) (message : String) (now : Nat := 0) :
    Except Abort Outcome :=
  if status.isTerminal then
    .ok { o with endTime := now, status, errorMessage := message }
  else .error notTerminal

/-- The record ended at time `now` with `status` and `message`, whatever the status. -/
def close (o : Outcome) (status : Status) (message : String) (now : Nat) : Outcome :=
  { o with endTime := now, status, errorMessage := message }

/-- Keep the larger of the recorded and the sampled resource figures. -/
def observe (o : Outcome) (memoryMb cpuPercent : Float) : Outcome :=
  { o with
    memoryMb := if memoryMb > o.memoryMb then memoryMb else o.memoryMb
    cpuPercent := if cpuPercent > o.cpuPercent then cpuPercent else o.cpuPercent }

/-- The member names of the wire form, sorted. -/
def wireKeys : List String :=
  ["childPid", "command", "cpuPercent", "durationSecs", "endTime", "errorMessage", "exitCode",
    "memoryMb", "processId", "startTime", "status", "stderr", "stdout", "task", "taskIndex",
    "workerId"]

theorem finish_status {o o2 : Outcome} {s : Status} {m : String} {now : Nat}
    (h : o.finish s m now = .ok o2) : o2.status = s ∧ s.isTerminal := by
  unfold finish at h
  split at h
  · cases h; exact ⟨rfl, by assumption⟩
  · cases h

end Outcome

end Fanout

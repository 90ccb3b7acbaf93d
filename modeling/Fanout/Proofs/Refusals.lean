import Fanout.Process.Runner
import Fanout.Proofs.Supervision

/-!
# Refusing a job before its process starts

Before a job's process starts, the process runner goes through fixed stages: a look at the stop
signals, the check of the job's file, the build of its command, the working directory, a second
look at the signals, and the start itself. The first stage that fails ends the job, and its
record says which: cancelled, or an error carrying the stage's message.

This module shows that every way out before the start leaves a clean record
(`executeJob_stops_at_first_failure`): a terminal status and the stage's message, no process and
no exit code, the command only once it was built, and the files as they were unless the working
directory was made. A process id, the one the machine gives, is set exactly when the start
succeeds. Nothing here depends on the machine's system.
-/

namespace Fanout

variable {π : Type}

/-- A report of a job that ended before its process started: the record ends with `status` and
`message` and names `command`, but no process and no exit code; the files are `fs`, and nothing
broke down. -/
structure Unstarted (r : JobReport) (status : Status) (message command : String) (fs : Host.Fs) :
    Prop where
  status : r.outcome.status = status
  message : r.outcome.errorMessage = message
  command : r.outcome.command = command
  noChild : r.outcome.childPid = none
  noExit : r.outcome.exitCode = none
  files : r.fs = fs
  noFault : r.fault = none

/-- A fresh record closed before its process started, with the command it names. -/
theorem unstarted_close (job : Job) (index worker : Nat) (command : String) (status : Status)
    (message : String) (events : List Log.Event) (fs : Host.Fs) :
    Unstarted
      ({ outcome := ({ Outcome.started job index worker with command }).close status message 0
         opening := events, fs } : JobReport) status message command fs :=
  ⟨rfl, rfl, rfl, rfl, rfl, rfl, rfl⟩

/-- The file check refuses a job whose file cannot be read, or is larger than the limit, each
with a security error that names the file. -/
theorem checkSource_error {fs : Host.Fs} {cwd path : String} {maxSize : Nat} {e : JobError}
    (h : checkSource fs cwd path maxSize = .error e) :
    ((path = "" ∨ ∃ err, fs.stat (Text.encode cwd) (Text.encode path) = .error err) ∧
        e = .security ("Cannot access task file: " ++ path)) ∨
      ∃ n, fs.stat (Text.encode cwd) (Text.encode path) = .ok n ∧ maxSize < nodeSize n ∧
        e = .security ("Task file too large: " ++ path) := by
  unfold checkSource at h
  dsimp only at h
  split at h
  · next hp =>
    cases h
    exact .inl ⟨.inl (by simpa using hp), rfl⟩
  · split at h
    · next n hn =>
      split at h
      · next hbig =>
        cases h
        exact .inr ⟨n, hn, hbig, rfl⟩
      · cases h
    · next err herr =>
      cases h
      exact .inl ⟨.inr ⟨err, herr⟩, rfl⟩

/-- Supervising a child keeps the process id its record was given. -/
theorem supervise_childPid (o : Outcome) (keep secs : Nat) (t : List (List Ready)) :
    (supervise o keep secs t).outcome.childPid = o.childPid := by
  obtain ⟨mem, cpu, hw⟩ := watch_outcome_eq { outcome := o } t
  rw [supervise_eq]
  dsimp only
  -- the drain leaves the record alone, and sealing touches neither process id
  cases (watch { outcome := o } t).1 <;> simp [sealRecord, Watch.drain, Outcome.close, hw]

section Stages

-- every stage lemma unfolds the execution, so its equations are made once, here
attribute [local simp] executeJob

variable {t : Template} {cfg : Config} {m : Machine π} {d : Dispatch}
  {cancelledFirst cancelledLate : Bool} {stops : StopTimes}

/-- A job cancelled at the first look ends before anything is checked or made. -/
theorem executeJob_cancelled_first (h : cancelledFirst = true) :
    Unstarted (executeJob t cfg m d cancelledFirst cancelledLate stops) .cancelled "Task cancelled"
      "" m.fs := by
  simp only [executeJob, h, if_true]
  exact unstarted_close _ _ _ _ _ _ [] _

/-- A job whose file is refused ends with the refusal, before its command is built. -/
theorem executeJob_source_error (h1 : cancelledFirst = false) {e : JobError}
    (h : checkSource m.fs m.cwd d.job.sourcePath cfg.security.maxTaskFileSize = .error e) :
    Unstarted (executeJob t cfg m d cancelledFirst cancelledLate stops) .error e.recordText "" m.fs := by
  simp only [executeJob, h1, h, Bool.false_eq_true, if_false]
  exact unstarted_close _ _ _ _ _ _ _ _

/-- A job whose command cannot be built ends with the builder's error. -/
theorem executeJob_build_error (h1 : cancelledFirst = false)
    (hs : checkSource m.fs m.cwd d.job.sourcePath cfg.security.maxTaskFileSize = .ok ()) {e : JobError}
    (h : t.build m.fs m.cwd d.job cfg.security.maxArgumentLength = .error e) :
    Unstarted (executeJob t cfg m d cancelledFirst cancelledLate stops) .error e.recordText "" m.fs := by
  simp only [executeJob, h1, hs, h, Bool.false_eq_true, if_false]
  exact unstarted_close _ _ _ _ _ _ _ _

variable {cmd : Rendered}

/-- A job whose working directory cannot be made ends with that error and names its command. -/
theorem executeJob_workspace_error (h1 : cancelledFirst = false)
    (hs : checkSource m.fs m.cwd d.job.sourcePath cfg.security.maxTaskFileSize = .ok ())
    (hb : t.build m.fs m.cwd d.job cfg.security.maxArgumentLength = .ok cmd) {e : JobError}
    (h : resolveWorkdir cfg.execution m d.workerId = .error e) :
    Unstarted (executeJob t cfg m d cancelledFirst cancelledLate stops) .error e.recordText
      cmd.display m.fs := by
  simp only [executeJob, h1, hs, hb, h, Bool.false_eq_true, if_false]
  exact unstarted_close _ _ _ _ _ _ _ _

variable {fs : Host.Fs} {workdir : String}

/-- A job cancelled at the second look ends with its command named and its directory made. -/
theorem executeJob_cancelled_late (h1 : cancelledFirst = false)
    (hs : checkSource m.fs m.cwd d.job.sourcePath cfg.security.maxTaskFileSize = .ok ())
    (hb : t.build m.fs m.cwd d.job cfg.security.maxArgumentLength = .ok cmd)
    (hw : resolveWorkdir cfg.execution m d.workerId = .ok (fs, workdir))
    (h2 : cancelledLate = true) :
    Unstarted (executeJob t cfg m d cancelledFirst cancelledLate stops) .cancelled "Task cancelled"
      cmd.display fs := by
  simp only [executeJob, h1, hs, hb, hw, h2, Bool.false_eq_true, if_false, if_true]
  exact unstarted_close _ _ _ _ _ _ [] _

/-- A job whose process cannot start ends with the start's error. -/
theorem executeJob_spawn_error (h1 : cancelledFirst = false)
    (hs : checkSource m.fs m.cwd d.job.sourcePath cfg.security.maxTaskFileSize = .ok ())
    (hb : t.build m.fs m.cwd d.job cfg.security.maxArgumentLength = .ok cmd)
    (hw : resolveWorkdir cfg.execution m d.workerId = .ok (fs, workdir))
    (h2 : cancelledLate = false) {e : JobError} (h : spawnChild cfg m fs workdir cmd = .error e) :
    Unstarted (executeJob t cfg m d cancelledFirst cancelledLate stops) .error e.recordText
      cmd.display fs := by
  simp only [executeJob, h1, hs, hb, hw, h2, h, Bool.false_eq_true, if_false]
  exact unstarted_close _ _ _ _ _ _ _ _

/-- A job whose process starts has its process id in its record. -/
theorem executeJob_started (h1 : cancelledFirst = false)
    (hs : checkSource m.fs m.cwd d.job.sourcePath cfg.security.maxTaskFileSize = .ok ())
    (hb : t.build m.fs m.cwd d.job cfg.security.maxArgumentLength = .ok cmd)
    (hw : resolveWorkdir cfg.execution m d.workerId = .ok (fs, workdir))
    (h2 : cancelledLate = false) {l : π × List String}
    (h : spawnChild cfg m fs workdir cmd = .ok l) :
    (executeJob t cfg m d cancelledFirst cancelledLate stops).outcome.childPid = some m.childPid := by
  simp only [executeJob, h1, hs, hb, hw, h2, h, Bool.false_eq_true, if_false]
  split <;> exact supervise_childPid _ _ _ _

end Stages

/-- The process runner ends a job at the first stage that fails before its process starts: the
first look at the stop signals, the file check, the build, the working directory, the second look
at the signals, the start. Each way out leaves a record with a terminal status and the stage's
message, no process and no exit code. A cancellation at the first look, a refused file and a
refused build name no command and leave the files as they were; the later stages name the built
command. The file check refuses with a security error. Once every stage passes, the record
carries the process id. -/
theorem executeJob_stops_at_first_failure (t : Template) (cfg : Config) (m : Machine π)
    (d : Dispatch) (cancelledFirst cancelledLate : Bool) (stops : StopTimes) :
    let r := executeJob t cfg m d cancelledFirst cancelledLate stops
    let source := checkSource m.fs m.cwd d.job.sourcePath cfg.security.maxTaskFileSize
    let built := t.build m.fs m.cwd d.job cfg.security.maxArgumentLength
    (cancelledFirst = true → Unstarted r .cancelled "Task cancelled" "" m.fs) ∧
    (cancelledFirst = false → ∀ e, source = .error e →
      (∃ msg, e = .security msg) ∧ Unstarted r .error e.recordText "" m.fs) ∧
    (cancelledFirst = false → source = .ok () → ∀ e, built = .error e →
      Unstarted r .error e.recordText "" m.fs) ∧
    (cancelledFirst = false → source = .ok () → ∀ cmd, built = .ok cmd →
      (∀ e, resolveWorkdir cfg.execution m d.workerId = .error e →
        Unstarted r .error e.recordText cmd.display m.fs) ∧
      ∀ fs workdir, resolveWorkdir cfg.execution m d.workerId = .ok (fs, workdir) →
        (cancelledLate = true → Unstarted r .cancelled "Task cancelled" cmd.display fs) ∧
        (cancelledLate = false → ∀ e, spawnChild cfg m fs workdir cmd = .error e →
          Unstarted r .error e.recordText cmd.display fs) ∧
        (cancelledLate = false → ∀ l, spawnChild cfg m fs workdir cmd = .ok l →
          r.outcome.childPid = some m.childPid)) := by
  intro r source built
  refine ⟨executeJob_cancelled_first, fun h1 e hs => ⟨?_, executeJob_source_error h1 hs⟩,
    fun h1 hs e hb => executeJob_build_error h1 hs hb, fun h1 hs cmd hb => ⟨?_, ?_⟩⟩
  · -- a refused file is a security error, whichever check refused it
    rcases checkSource_error hs with ⟨-, he⟩ | ⟨-, -, -, he⟩ <;> exact ⟨_, he⟩
  · exact fun e hw => executeJob_workspace_error h1 hs hb hw
  · intro fs workdir hw
    exact ⟨executeJob_cancelled_late h1 hs hb hw, fun h2 e h => executeJob_spawn_error h1 hs hb hw h2 h,
      fun h2 l h => executeJob_started h1 hs hb hw h2 h⟩

end Fanout

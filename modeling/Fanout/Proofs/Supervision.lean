import Fanout.Proofs.Tail
import Mathlib.Data.ENat.Basic

/-!
# How a supervised child's record is sealed

The supervisor's loop (`watch`) takes what is ready in a fixed order, so how it ends depends only
on when each of its ends is first ready. `readyAt` gives the first batch of a trace that holds a
cancellation, or the child's answer to waiting for it, and `deadlineAt` the batch of the
deadline, which has come by the end of the trace at the latest; `firstReadyEnd` reads the end off
them, and the watch ends so (`watch_ending_firstReadyEnd`). The drain reads on from where the
watch stopped, so each pipe's buffer gets every read of the trace once and in order
(`drain_watch`), and the kept text is the tail of all of it (`tailText_eq_lastChars`).
`supervise_outcome_by_readiness` puts these together: the record's status, message and exit code,
whether the child was terminated, and the text of its streams.
-/

namespace Fanout

/-- The bytes a reader gets from a pipe's reads: all of them up to the end of the stream or the
first failure. -/
def received : List Read → List UInt8
  | [] => []
  | .data [] :: _ => []
  | .data (b :: bs) :: rs => (b :: bs) ++ received rs
  | .failed :: _ => []

/-- Whether an event is the child's answer to waiting for it: its exit, or a failure to wait. -/
def Ready.answers (e : Ready) : Bool := e.waited.isSome

/-- The first batch of a trace that holds an event `p` picks; never (`⊤`) when none does. -/
def readyAt (p : Ready → Bool) : List (List Ready) → ℕ∞
  | [] => ⊤
  | b :: rest => if b.any p then 0 else readyAt p rest + 1

/-- The first batch that holds the deadline, or the end of the trace: the deadline has come by
then. -/
def deadlineAt : List (List Ready) → ℕ
  | [] => 0
  | b :: rest => if b.any Ready.isDeadline then 0 else deadlineAt rest + 1

/-- The child's first answer to waiting for it in a trace. -/
def waitResult (t : List (List Ready)) : Option ChildEnd := t.findSome? (·.findSome? Ready.waited)

/-- How the watch of `t` ends by when each of its ends is first ready: a cancellation no later
than the child's answer and the deadline; else the answer, when it is there no later than the
deadline; else the deadline. -/
def firstReadyEnd (t : List (List Ready)) : ChildEnd :=
  if readyAt Ready.isCancel t ≤ readyAt Ready.answers t ∧ readyAt Ready.isCancel t ≤ deadlineAt t
  then .cancelled
  else if readyAt Ready.answers t ≤ deadlineAt t then (waitResult t).getD .timedOut
  else .timedOut

theorem any_answers_eq_false {b : List Ready} :
    b.any Ready.answers = false ↔ b.findSome? Ready.waited = none := by
  simp [Ready.answers, List.findSome?_eq_none_iff, Option.isSome_iff_ne_none]

/-- An answer that comes is the first answer of the trace. -/
theorem waitResult_isSome {t : List (List Ready)} (h : readyAt Ready.answers t ≠ ⊤) :
    (waitResult t).isSome := by
  induction t with
  | nil => simp [readyAt] at h
  | cons b rest ih =>
    rw [waitResult, List.findSome?_cons]
    cases hb : b.findSome? Ready.waited with
    | some e => rfl
    | none =>
      apply ih
      simpa [readyAt, any_answers_eq_false.2 hb] using h

namespace Pipe

theorem foldl_take_of_closed {p : Pipe} (h : p.reading = false) (rs : List Read) :
    rs.foldl Pipe.take p = p := by
  induction rs with
  | nil => rfl
  | cons r rs ih => simp [Pipe.take, h, ih]

/-- An open pipe gets what its reads carry up to the end of the stream or a failure; a closed
one gets nothing. -/
theorem bytes_foldl_take (rs : List Read) (p : Pipe) :
    (rs.foldl Pipe.take p).bytes = p.bytes ++ (if p.reading then received rs else []) := by
  induction rs generalizing p with
  | nil => simp [received]
  | cons r rs ih =>
    cases hp : p.reading
    · simp [foldl_take_of_closed hp]
    · rw [List.foldl_cons]
      rcases r with ⟨_ | ⟨b, bs⟩⟩ | _
      · -- the end of the stream closes the pipe
        rw [foldl_take_of_closed (by simp [Pipe.take, hp])]
        simp [Pipe.take, hp, received]
      · rw [ih]
        simp [Pipe.take, hp, received]
      · rw [foldl_take_of_closed (by simp [Pipe.take, hp])]
        simp [Pipe.take, hp, received]

end Pipe

section Watching

variable (w : Watch) (t : List (List Ready))

/-- The watch ends with the first batch that ends it, or at the deadline when the trace runs out
first. -/
theorem watch_ending : (watch w t).1 = (t.findSome? stopIn).getD .timedOut := by
  induction t generalizing w with
  | nil => rfl
  | cons b rest ih =>
    cases h : stopIn b with
    | some e => simp [watch, h]
    | none => simp [watch, h, ih]

/-- The watch leaves a suffix of the trace to the drain, and by then the supervisor has taken
every read of the batches before it, into the pipes it started with. -/
theorem watch_reads : ∃ pre, t = pre ++ (watch w t).2.2 ∧
    (watch w t).2.1.out = (pre.flatten.filterMap Ready.stdoutRead).foldl Pipe.take w.out ∧
    (watch w t).2.1.err = (pre.flatten.filterMap Ready.stderrRead).foldl Pipe.take w.err := by
  induction t generalizing w with
  | nil => exact ⟨[], rfl, rfl, rfl⟩
  | cons b rest ih =>
    cases h : stopIn b with
    | some e => exact ⟨[], by simp [watch, h], by simp [watch, h], by simp [watch, h]⟩
    | none =>
      obtain ⟨pre, hpre, hout, herr⟩ := ih (w.serve b)
      refine ⟨b :: pre, ?_, ?_, ?_⟩
      · simp only [watch, h]
        rw [List.cons_append, ← hpre]
      · simp only [watch, h, hout, List.flatten_cons, List.filterMap_append, List.foldl_append]
        rfl
      · simp only [watch, h, herr, List.flatten_cons, List.filterMap_append, List.foldl_append]
        rfl

/-- The drain goes on where the watch stopped: between them they take every read of the trace,
each once and in order. -/
theorem drain_watch :
    ((watch w t).2.1.drain (watch w t).2.2).out =
        (t.flatten.filterMap Ready.stdoutRead).foldl Pipe.take w.out ∧
      ((watch w t).2.1.drain (watch w t).2.2).err =
        (t.flatten.filterMap Ready.stderrRead).foldl Pipe.take w.err := by
  obtain ⟨pre, hpre, hout, herr⟩ := watch_reads w t
  constructor
  · conv_rhs => rw [hpre]
    simp only [Watch.drain, hout, List.flatten_append, List.filterMap_append, List.foldl_append]
  · conv_rhs => rw [hpre]
    simp only [Watch.drain, herr, List.flatten_append, List.filterMap_append, List.foldl_append]

/-- The watch ends as the first ready of its ends says, in the supervisor's order. -/
theorem watch_ending_firstReadyEnd : (watch w t).1 = firstReadyEnd t := by
  rw [watch_ending]
  induction t with
  | nil => simp [firstReadyEnd, readyAt, deadlineAt]
  | cons b rest ih =>
    rw [List.findSome?_cons]
    by_cases hc : b.any Ready.isCancel = true
    · -- a cancellation in the batch goes first
      simp [stopIn, hc, firstReadyEnd, readyAt]
    by_cases hx : b.any Ready.answers = true
    · -- then the child's answer, which is there before the deadline
      obtain ⟨e, he⟩ := Option.ne_none_iff_exists'.1 (mt any_answers_eq_false.2 (by simpa using hx))
      simp [stopIn, hc, hx, he, firstReadyEnd, readyAt, deadlineAt, waitResult]
    by_cases hd : b.any Ready.isDeadline = true
    · -- then the deadline
      simp [stopIn, hc, hx, any_answers_eq_false.1 (by simpa using hx), hd, firstReadyEnd, readyAt,
        deadlineAt]
    · -- nothing in the batch ends the watch: every end is one batch further on
      have hw := any_answers_eq_false.1 (by simpa using hx)
      simp only [stopIn, hc, hw, hd, Bool.false_eq_true, if_false, ih]
      simp [firstReadyEnd, readyAt, deadlineAt, waitResult, hc, hx, hd, hw]

theorem firstReadyEnd_of_cancel (h : readyAt Ready.isCancel t ≤ readyAt Ready.answers t ∧
    readyAt Ready.isCancel t ≤ deadlineAt t) : firstReadyEnd t = .cancelled := if_pos h

theorem firstReadyEnd_of_answer (h : readyAt Ready.answers t < readyAt Ready.isCancel t ∧
    readyAt Ready.answers t ≤ deadlineAt t) : firstReadyEnd t = (waitResult t).getD .timedOut := by
  rw [firstReadyEnd, if_neg (fun hc => absurd hc.1 (not_le_of_gt h.1)), if_pos h.2]

theorem firstReadyEnd_of_deadline (h : (deadlineAt t : ℕ∞) < readyAt Ready.isCancel t ∧
    (deadlineAt t : ℕ∞) < readyAt Ready.answers t) : firstReadyEnd t = .timedOut := by
  rw [firstReadyEnd, if_neg (fun hc => absurd hc.2 (not_le_of_gt h.1)),
    if_neg (not_le_of_gt h.2)]

end Watching

theorem JobError.recordText_io (m : String) :
    (JobError.io m).recordText = "Error: io error: " ++ m := by
  show "Error: " ++ ("io error: " ++ m) = _
  rw [← String.append_assoc]
  congr 1

/-- An exit with code `c` succeeds exactly when `c` is zero. -/
theorem exitRecord_code (c : Nat) :
    exitRecord (.code c) = if c = 0 then (.success, "") else (.failed, "Exit code " ++ toString c) := by
  cases c <;> rfl

/-- A record is sealed with the streams it was given. -/
theorem sealRecord_streams (o : Outcome) (secs : Nat) (e : ChildEnd) :
    (sealRecord o secs e).outcome.stdout = o.stdout ∧
      (sealRecord o secs e).outcome.stderr = o.stderr := by
  cases e <;> exact ⟨rfl, rfl⟩

/-- Samples change only the resource figures of a record. -/
theorem foldl_observe_eq (ss : List (Float × Float)) (o : Outcome) :
    ∃ mem cpu, ss.foldl (fun o s => o.observe s.1 s.2) o = { o with memoryMb := mem, cpuPercent := cpu } := by
  induction ss generalizing o with
  | nil => exact ⟨o.memoryMb, o.cpuPercent, rfl⟩
  | cons s ss ih =>
    obtain ⟨mem, cpu, h⟩ := ih (o.observe s.1 s.2)
    exact ⟨mem, cpu, by rw [List.foldl_cons, h]; rfl⟩

/-- Watching only samples resources into the record. -/
theorem watch_outcome_eq (w : Watch) (t : List (List Ready)) :
    ∃ mem cpu, (watch w t).2.1.outcome = { w.outcome with memoryMb := mem, cpuPercent := cpu } := by
  induction t generalizing w with
  | nil => exact ⟨w.outcome.memoryMb, w.outcome.cpuPercent, rfl⟩
  | cons b rest ih =>
    cases h : stopIn b with
    | some e => exact ⟨w.outcome.memoryMb, w.outcome.cpuPercent, by simp [watch, h]⟩
    | none =>
      obtain ⟨mem, cpu, hw⟩ := ih (w.serve b)
      obtain ⟨mem', cpu', hs⟩ := foldl_observe_eq (b.filterMap Ready.sample) w.outcome
      have hserve : (w.serve b).outcome = { w.outcome with memoryMb := mem', cpuPercent := cpu' } := hs
      refine ⟨mem, cpu, ?_⟩
      simp only [watch, h]
      rw [hw, hserve]

theorem watch_exitCode (w : Watch) (t : List (List Ready)) :
    (watch w t).2.1.outcome.exitCode = w.outcome.exitCode := by
  obtain ⟨mem, cpu, h⟩ := watch_outcome_eq w t
  rw [h]

section Supervising

variable (o : Outcome) (keep secs : Nat) (t : List (List Ready))

theorem supervise_eq : supervise o keep secs t =
    let w := (watch { outcome := o } t).2.1.drain (watch { outcome := o } t).2.2
    sealRecord { w.outcome with stdout := tailText keep w.out.bytes, stderr := tailText keep w.err.bytes }
      secs (watch { outcome := o } t).1 := rfl

/-- The supervisor seals, by the first ready of its ends, a record that keeps the exit code it
was given. -/
theorem supervise_sealed : ∃ d : Outcome, d.exitCode = o.exitCode ∧
    supervise o keep secs t = sealRecord d secs (firstReadyEnd t) :=
  ⟨_, watch_exitCode _ t, by rw [supervise_eq, watch_ending_firstReadyEnd]⟩

/-- Each stream keeps the tail of every byte read from its pipe, in the watch and in the drain
after it. -/
theorem supervise_streams :
    (supervise o keep secs t).outcome.stdout =
        Text.lastChars keep (Text.decodeLossy (received (t.flatten.filterMap Ready.stdoutRead))) ∧
      (supervise o keep secs t).outcome.stderr =
        Text.lastChars keep (Text.decodeLossy (received (t.flatten.filterMap Ready.stderrRead))) := by
  obtain ⟨hout, herr⟩ := drain_watch { outcome := o } t
  rw [supervise_eq]
  dsimp only
  rw [(sealRecord_streams _ _ _).1, (sealRecord_streams _ _ _).2, hout, herr,
    Pipe.bytes_foldl_take, Pipe.bytes_foldl_take]
  simp [tailText_eq_lastChars]

/-- How a supervised child's record is sealed, for every trace of what became ready. A
cancellation ready no later than the child's answer and the deadline cancels the job. Else an
answer ready no later than the deadline decides: an exit with code 0 succeeds, another code or a
signal fails, and a failure to wait is an error. Else the deadline times the job out. Only an exit
sets the exit code, and the supervisor terminates the child in every other case. Each stream
keeps the last `keep` characters of every byte read from its pipe. -/
theorem supervise_outcome_by_readiness :
    let r : Supervised := supervise o keep secs t
    let cancel := readyAt Ready.isCancel t
    let answer := readyAt Ready.answers t
    let deadline : ℕ∞ := deadlineAt t
    (cancel ≤ answer ∧ cancel ≤ deadline →
      r.outcome.status = .cancelled ∧ r.outcome.errorMessage = "Task cancelled" ∧
        r.outcome.exitCode = o.exitCode ∧ r.terminated = true) ∧
    (answer < cancel ∧ answer ≤ deadline →
      (waitResult t).isSome ∧
      (∀ c, waitResult t = some (.exited (.code c)) →
        r.outcome.status = (if c = 0 then .success else .failed) ∧
        r.outcome.errorMessage = (if c = 0 then "" else "Exit code " ++ toString c) ∧
        r.outcome.exitCode = some (c : Int) ∧ r.terminated = false) ∧
      (∀ s, waitResult t = some (.exited (.signal s)) →
        r.outcome.status = .failed ∧ r.outcome.errorMessage = "Terminated by signal " ++ toString s ∧
        r.outcome.exitCode = none ∧ r.terminated = false) ∧
      (∀ m, waitResult t = some (.waitFailed m) →
        r.outcome.status = .error ∧ r.outcome.errorMessage = "Error: io error: " ++ m ∧
        r.outcome.exitCode = o.exitCode ∧ r.terminated = true)) ∧
    (deadline < cancel ∧ deadline < answer →
      r.outcome.status = .timeout ∧
        r.outcome.errorMessage = "Timeout after " ++ toString secs ++ "s" ∧
        r.outcome.exitCode = o.exitCode ∧ r.terminated = true) ∧
    r.outcome.stdout =
      Text.lastChars keep (Text.decodeLossy (received (t.flatten.filterMap Ready.stdoutRead))) ∧
    r.outcome.stderr =
      Text.lastChars keep (Text.decodeLossy (received (t.flatten.filterMap Ready.stderrRead))) := by
  dsimp only
  obtain ⟨d, hd, hr⟩ := supervise_sealed o keep secs t
  refine ⟨fun h => ?_, fun h => ?_, fun h => ?_, supervise_streams o keep secs t⟩
  · rw [hr, firstReadyEnd_of_cancel t h]
    exact ⟨rfl, rfl, hd, rfl⟩
  · rw [hr, firstReadyEnd_of_answer t h]
    refine ⟨waitResult_isSome (ne_top_of_lt h.1), fun c hc => ?_, fun s hs => ?_, fun m hm => ?_⟩
    · rw [hc]
      by_cases h0 : c = 0
      · simp [sealRecord, exitRecord_code, h0, Outcome.close, exitCodeOf]
      · simp [sealRecord, exitRecord_code, h0, Outcome.close, exitCodeOf]
    · simp [hs, sealRecord, exitRecord, Outcome.close, exitCodeOf]
    · rw [hm]
      exact ⟨rfl, JobError.recordText_io m, hd, rfl⟩
  · rw [hr, firstReadyEnd_of_deadline t h]
    exact ⟨rfl, rfl, hd, rfl⟩

end Supervising

end Fanout

import Fanout.Proofs.Accounts
import Fanout.Run.Script

/-!
# What the sinks are told

Every outcome the coordinator takes in is handed to every sink, and the run ends by handing
every sink its summary; a sink that reports an error is told the rest all the same. An outcome
comes one of three ways: the worker's own, a lost job's record when the worker crashed, and a
lost job's record for a job still in flight when the run ends. Whichever way it comes, each
dispatched job is taken in once. `World.Records` says so of every world of a run:

* the calls on the sinks are, in order, one record call on every sink for each outcome
  published, then one finish call on every sink once the run has its result;
* the jobs the outcomes were published for, with the jobs still in flight, are the dispatched
  ones, each once, and each is the job at its position;
* a result counts what the pool counted.

Every turn keeps it (`World.Records.turn`). So a run that ends has told every sink of each
dispatched job once, all sinks in the same order, and then given each the summary it returns,
whose counts are those of the outcomes published (`run_tells_every_sink_once`).
-/

namespace Fanout

/-- The calls sink `i` received, in order. -/
def callsTo (i : Nat) (cs : List (Nat × SinkCall)) : List SinkCall :=
  (cs.filter (·.1 == i)).map (·.2)

/-- One call made on every sink of `plan`, in the order of the sinks. -/
def Plan.callEach (plan : Plan) (c : SinkCall) : List (Nat × SinkCall) :=
  plan.sinks.zipIdx.map fun x => (x.2, c)

@[simp] theorem callsTo_append (i : Nat) (cs cs' : List (Nat × SinkCall)) :
    callsTo i (cs ++ cs') = callsTo i cs ++ callsTo i cs' := by
  simp [callsTo]

/-- Each sink gets the call made on every sink once. -/
theorem callsTo_callEach (plan : Plan) (c : SinkCall) {i : Nat} (hi : i < plan.sinks.length) :
    callsTo i (plan.callEach c) = [c] := by
  have hkeys : plan.callEach c = (List.range' 0 plan.sinks.length).map (·, c) := by
    rw [Plan.callEach, ← List.zipIdx_map_snd, List.map_map]
    rfl
  -- the sinks are numbered from 0, each once
  have hone : (List.range' 0 plan.sinks.length).filter (· == i) = [i] := by
    rw [List.filter_beq, List.count_eq_one_of_mem List.nodup_range' (by simp; omega)]
    rfl
  have hpred : ((fun x : Nat × SinkCall => x.1 == i) ∘ fun j => (j, c)) = (· == i) := rfl
  rw [callsTo, hkeys, List.filter_map, hpred, hone]
  rfl

/-- Calls made on every sink, one after another, reach each sink in that order. -/
theorem callsTo_flatMap_callEach {α : Type} (plan : Plan) (f : α → SinkCall) {i : Nat}
    (hi : i < plan.sinks.length) (xs : List α) :
    callsTo i (xs.flatMap fun x => plan.callEach (f x)) = xs.map f := by
  induction xs with
  | nil => rfl
  | cons x xs ih =>
      rw [List.flatMap_cons, callsTo_append, callsTo_callEach plan _ hi, ih]
      rfl

namespace Breaker

/-- The outcomes among `ss` that count as cancelled: neither a success nor a failure. -/
def cancellations (ss : List Status) : Nat := ss.countP fun s => !s.isSuccess && !s.isFailure

/-- Every outcome is a success, a failure or a cancellation, and only one of them. -/
theorem successes_add_failures_add_cancellations (ss : List Status) :
    successes ss + failures ss + cancellations ss = ss.length := by
  induction ss with
  | nil => rfl
  | cons s ss ih =>
      have hs : ((if s.isSuccess = true then 1 else 0) + (if s.isFailure = true then 1 else 0) +
          (if (!s.isSuccess && !s.isFailure) = true then 1 else 0)) = 1 := by
        cases s <;> rfl
      simp only [successes, failures, cancellations, List.countP_cons, List.length_cons] at ih ⊢
      omega

end Breaker

namespace Pool

/-- The summary of a pool whose successes and failures fit a word: its counts, and the rest of
the total as cancelled. -/
theorem summary_of_le (p : Pool) (reason : StopReason) (h : p.completed + p.failed ≤ wordMax) :
    p.summary reason =
      .ok ⟨p.total, p.completed, p.failed, p.total - (p.completed + p.failed), reason⟩ :=
  Summary.make_of_le reason h

/-- A summary that the pool makes has the pool's counts, which fit a word. -/
theorem summary_eq_ok {p : Pool} {reason : StopReason} {s : Summary}
    (h : p.summary reason = .ok s) :
    p.completed + p.failed ≤ wordMax ∧
      s = ⟨p.total, p.completed, p.failed, p.total - (p.completed + p.failed), reason⟩ :=
  Summary.make_eq_ok_iff.1 h

end Pool

namespace World

variable {ρ σ : Type}

/-! ## Steps that leave the sinks alone -/

/-- What the sinks were told and what the run returns: the outcomes published, the jobs they
were published for, every call made on the sinks, and the result. -/
def sinkBook (w : World ρ σ) :
    List Outcome × List Dispatch × List (Nat × SinkCall) × Option Summary :=
  (w.published, w.recordedFor, w.sinkCalls, w.result)

/-- Waking waiters leaves the sinks alone. -/
theorem Woken.sinkBook {w w' : World ρ σ} (h : Woken w w') : w'.sinkBook = w.sinkBook := by
  obtain ⟨q, c, l, rs, rfl, -⟩ := h
  rfl

theorem sinkBook_askStop (w : World ρ σ) : w.askStop.sinkBook = w.sinkBook :=
  (woken_askStop w).sinkBook

theorem sinkBook_forceStop (w : World ρ σ) : w.forceStop.sinkBook = w.sinkBook :=
  (woken_forceStop w).sinkBook

theorem sinkBook_testBreaker (plan : Plan) (w : World ρ σ) :
    (w.testBreaker plan).sinkBook = w.sinkBook := by
  rcases testBreaker_cases plan w with ⟨he, -⟩ | ⟨t, lg, -, -, -, hw⟩
  · rw [he]
  · exact hw.sinkBook

theorem sinkBook_noticeStop (plan : Plan) (w : World ρ σ) :
    (w.noticeStop plan).sinkBook = w.sinkBook := by
  rcases noticeStop_cases plan w with ⟨-, he⟩ | ⟨-, -, lg, he⟩ <;> rw [he]
  rfl

theorem sinkBook_dispatchAll (plan : Plan) :
    ∀ (fuel : Nat) (w : World ρ σ), (dispatchAll plan fuel w).sinkBook = w.sinkBook
  | 0, _ => rfl
  | fuel + 1, w => by
    rcases dispatchAll_succ plan fuel w with ⟨-, he⟩ | ⟨key, d, p, -, -, -, lg, he⟩ <;> rw [he]
    exact sinkBook_dispatchAll plan fuel _

theorem sinkBook_settle (w : World ρ σ) (key : Nat) (p : Progress σ) :
    (w.settle key p).sinkBook = w.sinkBook := by
  rcases settle_cases w key p with ⟨s, wait, -, he⟩ | ⟨r, hw⟩
  · rw [he]
    rfl
  · exact hw.sinkBook

theorem sinkBook_work (runner : Runner ρ σ) (w : World ρ σ) (key : Nat) :
    (w.work runner key).sinkBook = w.sinkBook := by
  rcases work_cases runner w key with he | ⟨-, sh, lg, ex, ru, pk, p, he⟩ <;> rw [he]
  exact sinkBook_settle _ key p

theorem sinkBook_deliver (w : World ρ σ) (i : Nat) : (w.deliver i).sinkBook = w.sinkBook := by
  rcases deliver_cases w i with he | ⟨r, -, -, ⟨-, he⟩ | ⟨-, he⟩⟩ | ⟨r, -, he⟩ <;> rw [he]
  · exact sinkBook_askStop _
  · exact sinkBook_forceStop _
  · rfl

theorem sinkBook_advance (w : World ρ σ) (t : Nat) : (w.advance t).sinkBook = w.sinkBook :=
  (woken_advance w t).sinkBook

/-! ## Steps that tell the sinks -/

/-- Handing out an outcome calls every sink with it, whatever the sinks answer. -/
theorem sinkBook_publish (plan : Plan) (w : World ρ σ) (o : Outcome) :
    (w.publish plan o).sinkBook =
      (w.published ++ [o], w.recordedFor, w.sinkCalls ++ plan.callEach (.record o), w.result) := by
  obtain ⟨lg, h⟩ := publish_eq plan w o
  rw [h]
  rfl

/-- Closing the sinks calls every sink with the summary, whatever the sinks answer. -/
theorem sinkBook_finishSinks (plan : Plan) (w : World ρ σ) (s : Summary) :
    (w.finishSinks plan s).sinkBook =
      (w.published, w.recordedFor, w.sinkCalls ++ plan.callEach (.finish s), w.result) := by
  obtain ⟨lg, h⟩ := finishSinks_eq plan w s
  rw [h]
  rfl

/-- Taking in a finished job that is in flight hands one outcome to every sink, as the outcome
for that job. -/
theorem sinkBook_consolidate (plan : Plan) (w : World ρ σ)
    (rest : List (Nat × Except String Outcome)) {key : Nat} (r : Except String Outcome)
    {f : Flight} {p : Pool} (hc : w.pool.complete key = (some f, p)) :
    ∃ o, (({ w with joined := rest } : World ρ σ).consolidate plan key r).sinkBook =
      (w.published ++ [o], w.recordedFor ++ [f.dispatch], w.sinkCalls ++ plan.callEach (.record o),
        w.result) := by
  obtain ⟨o, lg, -, he⟩ := consolidate_of_complete plan { w with joined := rest } r hc
  refine ⟨o, ?_⟩
  rw [he, sinkBook_testBreaker, sinkBook_publish]

/-- The run ends by closing every sink with its summary, which gives the pool's counts: the
cancelled count is what the total leaves after successes and failures whenever their sum fits a
word. -/
theorem sinkBook_conclude (plan : Plan) (w : World ρ σ) (hin : w.pool.inFlight = []) :
    ∃ s : Summary, (w.conclude plan).sinkBook =
        (w.published, w.recordedFor, w.sinkCalls ++ plan.callEach (.finish s), some s) ∧
      s.total = w.pool.total ∧ s.completed = w.pool.completed ∧ s.failed = w.pool.failed ∧
      (w.pool.completed + w.pool.failed ≤ wordMax →
        s.cancelled = w.pool.total - (w.pool.completed + w.pool.failed)) := by
  obtain ⟨s, lg, hs, he⟩ := conclude_of_inFlight_nil plan w hin
  refine ⟨s, by rw [he]; rfl, ?_⟩
  -- the pool lets go of no flights and keeps its counts
  rcases hs with hs | ⟨e, hs, rfl⟩
  · obtain ⟨-, rfl⟩ := Pool.summary_eq_ok hs
    exact ⟨rfl, rfl, rfl, fun _ => rfl⟩
  · refine ⟨rfl, rfl, rfl, fun hle => ?_⟩
    rw [Pool.summary_of_le w.pool.takeInFlight.2 _ hle] at hs
    cases hs

/-- The pool after a finished job is taken in: the job has left flight, and counting its outcome
or tripping the breaker dispatches nothing. -/
theorem pool_consolidate (plan : Plan) (w : World ρ σ) (rest : List (Nat × Except String Outcome))
    {key : Nat} (r : Except String Outcome) {f : Flight} {p : Pool}
    (hc : w.pool.complete key = (some f, p)) :
    (({ w with joined := rest } : World ρ σ).consolidate plan key r).pool.inFlight = p.inFlight ∧
      (({ w with joined := rest } : World ρ σ).consolidate plan key r).pool.dispatched =
        p.dispatched := by
  obtain ⟨o, he⟩ := ledger_consolidate plan w rest r hc
  have hp : (({ w with joined := rest } : World ρ σ).consolidate plan key r).pool = _ :=
    congrArg Ledger.pool he
  rw [hp]
  rcases Ledger.test_cases plan.config.autoStop ({ w.ledger with pool := p, joined := rest }.account o)
    with ⟨heq, -⟩ | ⟨t, -, -, -, heq⟩ <;>
  · rw [heq]
    simp [Ledger.account, Pool.record_eq, Pool.requestShutdown]

/-! ## The records of a run -/

/-- What the sinks of `plan` were told in a run of `jobs`, and for which jobs: every sink was
given each outcome published, in order, and then the summary once the run has its result; the
jobs the outcomes were published for and the jobs in flight are the dispatched ones, each once,
every one the job at its position; and a result has the pool's counts. -/
structure Records (plan : Plan) (jobs : List Job) (w : World ρ σ) : Prop where
  calls : w.sinkCalls = (w.published.flatMap fun o => plan.callEach (.record o)) ++
    w.result.toList.flatMap fun s => plan.callEach (.finish s)
  dispatches : (w.recordedFor.map (·.taskIndex) ++ w.pool.inFlight.map (·.1)).Perm
    (List.range' 1 w.pool.dispatched)
  jobs : ∀ d ∈ w.recordedFor, jobs[d.taskIndex - 1]? = some d.job
  summary : ∀ s, w.result = some s → s.total = w.pool.total ∧ s.completed = w.pool.completed ∧
    s.failed = w.pool.failed ∧
    (w.pool.completed + w.pool.failed ≤ wordMax →
      s.cancelled = w.pool.total - (w.pool.completed + w.pool.failed))

variable {plan : Plan} {jobs : List Job} {m : Nat} {w w' : World ρ σ}

theorem sinkBook_eq_iff : w'.sinkBook = w.sinkBook ↔ w'.published = w.published ∧
    w'.recordedFor = w.recordedFor ∧ w'.sinkCalls = w.sinkCalls ∧ w'.result = w.result := by
  simp [sinkBook]

theorem result_eq_of_sinkBook (h : w'.sinkBook = w.sinkBook) : w'.result = w.result :=
  (sinkBook_eq_iff.1 h).2.2.2

/-- A step that tells the sinks nothing and moves neither the jobs in flight nor the dispatches
keeps the records, when the run has no result yet or the pool stays as it is. -/
theorem Records.of_frame (h : w.Records plan jobs) (hs : w'.sinkBook = w.sinkBook)
    (hin : w'.pool.inFlight = w.pool.inFlight) (hd : w'.pool.dispatched = w.pool.dispatched)
    (hp : w.result = none ∨ w'.pool = w.pool) : w'.Records plan jobs := by
  obtain ⟨hpub, hrec, hcalls, hres⟩ := sinkBook_eq_iff.1 hs
  refine ⟨?_, ?_, ?_, fun s hs' => ?_⟩
  · rw [hcalls, hpub, hres]
    exact h.calls
  · rw [hrec, hin, hd]
    exact h.dispatches
  · rw [hrec]
    exact h.jobs
  · rw [hres] at hs'
    rcases hp with hr | hp
    · rw [hr] at hs'
      cases hs'
    · rw [hp]
      exact h.summary s hs'

/-- A step that tells the sinks nothing and leaves the pool alone keeps the records. -/
theorem Records.of_same (h : w.Records plan jobs) (hs : w'.sinkBook = w.sinkBook)
    (hp : w'.pool = w.pool) : w'.Records plan jobs :=
  h.of_frame hs (by rw [hp]) (by rw [hp]) (.inr hp)

theorem Records.noticeStop (h : w.Records plan jobs) (hr : w.result = none) :
    (w.noticeStop plan).Records plan jobs := by
  rcases noticeStop_cases plan w with ⟨-, he⟩ | ⟨-, -, lg, he⟩ <;> rw [he]
  · exact h
  · exact h.of_frame rfl rfl rfl (.inl hr)

/-- A dispatch puts the next job in flight, under the next key. -/
theorem Records.dispatch (h : w.Records plan jobs) (hr : w.result = none) (hp : w.pool.Inv jobs m)
    {now k : Nat} {d : Dispatch} {p : Pool} (hd : w.pool.dispatchNext now = (some (k, d), p))
    (hs : w'.sinkBook = w.sinkBook) (hpool : w'.pool = p) : w'.Records plan jobs := by
  obtain ⟨x, xs, job, rest, -, -, -, -, -, rfl⟩ := Pool.dispatchNext_eq_some hd
  obtain ⟨hpub, hrec, hcalls, hres⟩ := sinkBook_eq_iff.1 hs
  refine ⟨?_, ?_, ?_, fun s hs' => ?_⟩
  · rw [hcalls, hpub, hres]
    exact h.calls
  · -- the new key is one past the dispatches so far
    rw [hrec, hpool, List.map_append, List.map_singleton, ← List.append_assoc, hp.last_key,
      List.range'_1_concat, Nat.add_comm 1]
    exact h.dispatches.append_right _
  · rw [hrec]
    exact h.jobs
  · rw [hres, hr] at hs'
    cases hs'

theorem Records.dispatchAll (plan : Plan) :
    ∀ (fuel : Nat) {w : World ρ σ}, w.pool.Inv jobs m → w.Records plan jobs → w.result = none →
      (dispatchAll plan fuel w).Records plan jobs
  | 0, _, _, h, _ => h
  | fuel + 1, w, hp, h, hr => by
    rcases dispatchAll_succ plan fuel w with ⟨-, he⟩ | ⟨key, d, p, -, -, hd, lg, he⟩ <;> rw [he]
    · exact h
    · have hp' : p.Inv jobs m := by
        have := hp.dispatchNext w.now
        rwa [hd] at this
      exact Records.dispatchAll plan fuel hp' (h.dispatch hr hp hd rfl rfl) hr

/-- Taking in a finished job hands its outcome to every sink, as the outcome of the job that
leaves flight. -/
theorem Records.consolidate (hb : w.Inv jobs m) (h : w.Records plan jobs) (hr : w.result = none)
    {key : Nat} {r : Except String Outcome} {rest : List (Nat × Except String Outcome)}
    (hj : w.joined = (key, r) :: rest) :
    (({ w with joined := rest } : World ρ σ).consolidate plan key r).Records plan jobs ∧
      (({ w with joined := rest } : World ρ σ).consolidate plan key r).result = none := by
  have hk := hb.joined_in_flight (hj ▸ List.mem_cons_self)
  obtain ⟨f, hf, hc⟩ := complete_of_mem hk
  obtain ⟨o, hbook⟩ := sinkBook_consolidate plan w rest r hc
  obtain ⟨hpub, hrec, hcalls, hres⟩ : _ ∧ _ ∧ _ ∧ _ := by
    simpa only [sinkBook, Prod.mk.injEq] using hbook
  obtain ⟨hin, hd⟩ := pool_consolidate plan w rest r hc
  -- the job that leaves flight is the one the outcome is for
  have hkey : f.dispatch.taskIndex = key := hb.pool.index _ hf
  have hkeys := perm_cons_filter_key hb.pool.keys_sorted.nodup hk
  refine ⟨⟨?_, ?_, ?_, fun s hs => ?_⟩, hres.trans hr⟩
  · rw [hcalls, hpub, hres, h.calls, hr]
    simp
  · rw [hrec, hin, hd, List.map_append, List.map_singleton, hkey, List.append_assoc,
      List.singleton_append]
    exact (hkeys.symm.append_left _).trans h.dispatches
  · intro d hd'
    rw [hrec] at hd'
    rcases List.mem_append.1 hd' with hd' | hd'
    · exact h.jobs d hd'
    · rw [List.mem_singleton.1 hd', hkey]
      exact hb.pool.job _ hf
  · rw [hres, hr] at hs
    cases hs

/-- The run ends by closing every sink with its summary, which has the pool's counts. -/
theorem Records.conclude (hb : w.Inv jobs m) (h : w.Records plan jobs) (hr : w.result = none)
    (hl : w.live = []) (hj : w.joined = []) : (w.conclude plan).Records plan jobs := by
  have hin := hb.inFlight_eq_nil hl hj
  obtain ⟨s, hbook, hcounts⟩ := sinkBook_conclude plan w hin
  obtain ⟨hpub, hrec, hcalls, hres⟩ : _ ∧ _ ∧ _ ∧ _ := by
    simpa only [sinkBook, Prod.mk.injEq] using hbook
  obtain ⟨_, -, hl'⟩ := ledger_conclude plan w hin
  have hp : (w.conclude plan).pool = w.pool.takeInFlight.2 := congrArg Ledger.pool hl'
  refine ⟨?_, ?_, ?_, fun s' hs' => ?_⟩
  · rw [hcalls, hpub, hres, h.calls, hr]
    simp
  · rw [hrec, hp]
    simpa [Pool.takeInFlight, hin] using h.dispatches
  · rw [hrec]
    exact h.jobs
  · rw [hres, Option.some.injEq] at hs'
    subst hs'
    rw [hp]
    exact hcounts

/-- The coordinator's loop keeps the records, whatever it finds at each round. -/
theorem Records.coordinate (plan : Plan) :
    ∀ (fuel : Nat) {w : World ρ σ}, w.Inv jobs m → w.Records plan jobs → w.result = none →
      (coordinate plan fuel w).Records plan jobs
  | 0, _, _, h, _ => h
  | fuel + 1, w, hb, h, hr => by
    have hr1 : (w.noticeStop plan).result = none :=
      (result_eq_of_sinkBook (sinkBook_noticeStop plan w)).trans hr
    have h1 := Records.dispatchAll plan ((w.noticeStop plan).pool.pending.length + 1)
      (hb.noticeStop plan).pool (h.noticeStop hr) hr1
    have hb1 := Inv.dispatchAll plan ((w.noticeStop plan).pool.pending.length + 1)
      (hb.noticeStop plan)
    have hr2 := (result_eq_of_sinkBook (sinkBook_dispatchAll plan
      ((w.noticeStop plan).pool.pending.length + 1) _)).trans hr1
    rcases coordinate_succ plan fuel w _ rfl with ⟨hl, hj, he⟩ | ⟨key, r, rest, hj, he⟩ | he | he <;>
      rw [he]
    · exact h1.conclude hb1 hr2 hl hj
    · obtain ⟨h3, hr3⟩ := h1.consolidate hb1 hr2 hj
      exact Records.coordinate plan fuel (hb1.consolidate plan hj) h3 hr3
    · exact Records.coordinate plan fuel hb1 h1 hr2
    · exact h1.of_same rfl rfl

/-- Waking keeps the records, whether a finished job is taken in first or not. -/
theorem Records.resume (jobFirst : Bool) (hb : w.Inv jobs m) (h : w.Records plan jobs)
    (hr : w.result = none) :
    (w.resume plan jobFirst).Records plan jobs ∧ (w.resume plan jobFirst).result = none := by
  rcases resume_cases plan jobFirst w with he | ⟨key, r, rest, hj, -, he⟩ <;> rw [he]
  · exact ⟨h, hr⟩
  · exact h.consolidate hb hr hj

/-- One turn of a run keeps the records, whoever takes it. -/
theorem Records.turn {runner : Runner ρ σ} {limit : Nat} {jobFirst : Bool} (hb : w.Inv jobs m)
    (h : w.Records plan jobs) (ht : w.turn plan runner limit jobFirst = some w') :
    w'.Records plan jobs := by
  -- taking the first actor off the queue leaves the books and the records alone
  have hb0 : ∀ rest, ({ w with queue := rest } : World ρ σ).Inv jobs m :=
    fun _ => hb.of_sameBooks ⟨rfl, rfl, rfl⟩
  have h0 : ∀ rest, ({ w with queue := rest } : World ρ σ).Records plan jobs :=
    fun _ => h.of_same rfl rfl
  rcases turn_cases ht with ⟨rest, -, -, rfl⟩ | ⟨rest, -, hres, rfl⟩ | ⟨k, rest, -, rfl⟩ |
    ⟨i, rest, -, rfl⟩ | ⟨-, t, -, -, rfl⟩
  · exact h0 rest
  · obtain ⟨h1, hr1⟩ := (h0 rest).resume jobFirst (hb0 rest) hres
    exact Records.coordinate plan _ ((hb0 rest).resume plan jobFirst) h1 hr1
  · obtain ⟨st, j, he⟩ := ledger_work runner { w with queue := rest } k
    exact (h0 rest).of_same (sinkBook_work runner _ k) (congrArg Ledger.pool he)
  · exact (h0 rest).of_same (sinkBook_deliver _ i) (sameBooks_deliver _ i).pool
  · exact h.of_same (sinkBook_advance _ _) (sameBooks_advance _ _).pool

theorem Records.turns {runner : Runner ρ σ} {limit : Nat} {w₀ : World ρ σ} (hb₀ : w₀.Inv jobs m)
    (h₀ : w₀.Records plan jobs) (hw : Turns plan runner limit w₀ w) : w.Records plan jobs := by
  induction hw with
  | here => exact h₀
  | turn hw ht ih => exact ih.turn (hb₀.turns hw) ht

/-- A run starts with the sinks told nothing and nothing dispatched. -/
theorem records_launchWorld (cfg : Config) (runner : Runner ρ σ) (shared : ρ) (sinks : List Sink)
    (jobs : List Job) (requests : List (Nat × Request)) (checked : List Log.Event) (plan : Plan) :
    (launchWorld cfg runner shared sinks jobs requests checked).Records plan jobs :=
  ⟨rfl, .nil, fun _ hd => absurd hd List.not_mem_nil, fun _ hs => nomatch hs⟩

/-- At every point of a run where it has ended with summary `s`, whatever its runner (also one
whose workers crash), its sinks (also ones that fail), the order in which jobs finish and the
stop requests: the outcomes published were for the dispatched jobs, each once, each the job at
its position; every sink was given those outcomes in the one order they were published, then
`s`; and `s` counts every job, the successes and failures published, and as cancelled the jobs
never dispatched with the published outcomes of any other status. A job set fits a word, as
every list the original holds does. -/
theorem run_tells_every_sink_once (cfg : Config) (runner : Runner ρ σ) (shared : ρ)
    (sinks : List Sink) (jobs : List Job) (requests : List (Nat × Request))
    (checked : List Log.Event) (plan : Plan) (limit : Nat) {w : World ρ σ} {s : Summary}
    (hw : Turns plan runner limit (launchWorld cfg runner shared sinks jobs requests checked) w)
    (hs : w.result = some s) (hn : jobs.length ≤ wordMax) :
    let ss := w.published.map (·.status)
    (w.recordedFor.map (·.taskIndex)).Perm (List.range' 1 w.pool.dispatched) ∧
    (∀ d ∈ w.recordedFor, jobs[d.taskIndex - 1]? = some d.job) ∧
    w.recordedFor.length = w.published.length ∧
    (∀ i < plan.sinks.length, callsTo i w.sinkCalls = w.published.map .record ++ [.finish s]) ∧
    s.total = jobs.length ∧ s.completed = Breaker.successes ss ∧ s.failed = Breaker.failures ss ∧
    s.cancelled = jobs.length - w.pool.dispatched + Breaker.cancellations ss := by
  intro ss
  have hb₀ := inv_launchWorld cfg runner shared sinks jobs requests checked
  have hb := hb₀.turns hw
  have hrec := (records_launchWorld cfg runner shared sinks jobs requests checked plan).turns hb₀ hw
  have hacc := (keeps_run cfg runner shared sinks jobs requests checked hw .here).1
  -- the run ended, so nothing is in flight and every dispatched job's outcome is published
  have hin : w.pool.inFlight = [] := (hacc.ended (by simp [ledger, hs])).2.2
  have hflights : w.published.length = w.pool.dispatched := by
    simpa [ledger, hin] using hacc.flights
  have hperm : (w.recordedFor.map (·.taskIndex)).Perm (List.range' 1 w.pool.dispatched) := by
    simpa [hin] using hrec.dispatches
  have hlen : w.recordedFor.length = w.published.length := by
    simpa [hflights] using hperm.length_eq
  obtain ⟨htotal, hcompleted, hfailed, hcancelled⟩ := hrec.summary s hs
  have hts : w.pool.Tallies ss := hacc.tallies
  have hcount := Breaker.successes_add_failures_add_cancellations ss
  have hss : ss.length = w.pool.dispatched := by simp [ss, hflights]
  have hdisp := hb.pool.dispatched_le
  refine ⟨hperm, hrec.jobs, hlen, fun i hi => ?_, htotal.trans hb.pool.total,
    hcompleted.trans hts.completed, hfailed.trans hts.failed, ?_⟩
  · rw [hrec.calls, hs, callsTo_append, callsTo_flatMap_callEach plan _ hi]
    simp [callsTo_callEach plan _ hi]
  · -- successes and failures are among the dispatched jobs, so their sum fits a word
    rw [hcancelled (by rw [hts.completed, hts.failed]; omega), hts.completed, hts.failed,
      hb.pool.total]
    omega

/-- A run of four jobs on two slots, told to a sink that works and to one that fails: the second
job's worker crashes and its outcome is taken in first, as a lost job's error. -/
theorem run_tells_every_sink_once_crash :
    let cfg : Config := { limits := { maxWorkers := 2 } }
    let runner := scriptRunner "scripted" (fun _ => .ok ()) fun d =>
      if d.taskIndex = 2 then .crash 5 "boom" else if d.taskIndex = 3 then .timed .failure 10
      else if d.taskIndex = 4 then .cancelled else .timed .success 10
    let sinks : List Sink := [{ name := "log" }, { name := "broken", failure := some "disk full" }]
    let jobs : List Job := [.file "a", .file "b", .file "c", .file "d"]
    let plan := launchPlan cfg runner sinks jobs
    let w := (launchWorld cfg runner () sinks jobs [] []).steps plan runner 1000 false 30
    let s := w.result.getD default
    let ss := w.published.map (·.status)
    w.result = some s ∧ jobs.length ≤ wordMax ∧
    (w.recordedFor.map (·.taskIndex)).Perm (List.range' 1 w.pool.dispatched) ∧
    (∀ d ∈ w.recordedFor, jobs[d.taskIndex - 1]? = some d.job) ∧
    w.recordedFor.length = w.published.length ∧
    (∀ i < plan.sinks.length, callsTo i w.sinkCalls = w.published.map .record ++ [.finish s]) ∧
    s.total = jobs.length ∧ s.completed = Breaker.successes ss ∧ s.failed = Breaker.failures ss ∧
    s.cancelled = jobs.length - w.pool.dispatched + Breaker.cancellations ss := by
  intro cfg runner sinks jobs plan w s ss
  have hsome : w.result.isSome = true := by decide +kernel
  have hs : w.result = some s := by
    cases hr : w.result with
    | none => rw [hr] at hsome; cases hsome
    | some x => simp only [s, hr, Option.getD_some]
  exact ⟨hs, by decide, run_tells_every_sink_once cfg runner () sinks jobs [] [] plan 1000
    (Turns.steps _ .here) hs (by decide)⟩

end World

end Fanout

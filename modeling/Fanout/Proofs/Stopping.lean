import Fanout.Proofs.Accounts
import Fanout.Run.Script

/-!
# How a run stops

A run stops in three ways besides finishing its jobs: the circuit breaker trips, a stop request
comes from outside, or one forces the stop. Read off the accounts of the run
(`Ledger.Accounts`), at every point of every run, whatever its runner, the order in which jobs
finish and the times of the requests:

* the breaker trips only when enabled, at the first outcome on which it has a verdict, and
  nothing is dispatched once that outcome is in; a trip on consecutive failures counts exactly
  its limit, and one on the failure rate counts every outcome so far;
* a request releases every job that waits for its cancellation, every job after it runs
  cancelled, nothing is dispatched once the coordinator took note of it, and the run ends only
  with every dispatched job's outcome taken in;
* the stop is forced only after two requests, counting the breaker's own.

The breaker counts as a requester. When the coordinator wakes with a finished job and a request
from outside at once and takes the job in first, the breaker is still consulted and may trip on
it; its own request is then the second, and it forces the stop. In the run as the program
performs it the coordinator takes note of the request first, so a request from outside that
comes before a trip keeps the breaker from tripping, and one request from outside never forces
the stop by itself.
-/

namespace Fanout

namespace Active

/-- Whether a worker waits for its job's cancellation. -/
def awaitsCancel {σ : Type} (e : Active σ) : Bool :=
  match e.phase with
  | .waiting _ wait _ => wait.onCancel
  | _ => false

end Active

namespace World

variable {ρ σ : Type}

/-! ## A request releases every job waiting for its cancellation -/

theorem handle_releaseWorker (w : World ρ σ) (e : Active σ) :
    (w.releaseWorker e).handle = w.handle := by
  obtain ⟨q, c, l, rs, h, -⟩ := woken_releaseWorker w e
  rw [h]

/-- A worker still waiting for cancellation after a wake of key `k` has another key, and waited
before. -/
theorem awaitsCancel_wakeWorker {w : World ρ σ} {k : Nat} {e : Active σ}
    (he : e ∈ (w.wakeWorker k).live) (hc : e.awaitsCancel = true) : e.key ≠ k ∧ e ∈ w.live := by
  obtain ⟨x, hx, rfl⟩ := List.mem_map.1 he
  by_cases hk : x.key = k
  · exfalso
    simp only [hk, beq_self_eq_true, if_true] at hc
    split at hc <;> simp_all [Active.awaitsCancel]
  · simp only [beq_iff_eq, hk, if_false] at hc ⊢
    exact ⟨hk, hx⟩

/-- With the handle asked, a worker still waiting for its job's cancellation after `e'` is looked
at waited before, and either has another key or `e'` did not wait for cancellation. -/
theorem awaitsCancel_releaseWorker {cur : World ρ σ} {e e' : Active σ}
    (hreq : cur.handle.requested = true) (he : e ∈ (cur.releaseWorker e').live)
    (hc : e.awaitsCancel = true) : e ∈ cur.live ∧ (e.key ≠ e'.key ∨ e'.awaitsCancel = false) := by
  unfold releaseWorker at he
  split at he
  · next s wait seq hph =>
      have hwait : e'.awaitsCancel = wait.onCancel := by simp [Active.awaitsCancel, hph]
      split at he
      · obtain ⟨hne, hmem⟩ := awaitsCancel_wakeWorker he hc
        exact ⟨hmem, .inl hne⟩
      · next hcond =>
          -- not woken with the handle asked: the worker did not wait for cancellation
          refine ⟨he, .inr ?_⟩
          rw [hwait]
          simp only [hreq, Bool.and_true, Bool.or_eq_true, not_or] at hcond
          simpa using hcond.1
  · next hph =>
      refine ⟨he, .inr ?_⟩
      unfold Active.awaitsCancel
      split
      · next hw => exact absurd hw (hph _ _ _)
      · rfl

/-- Going through the workers `rest` with the handle asked: a worker that still waits for its
job's cancellation has its key among those still to go through, on a worker that waits for it. -/
theorem releaseWorker_foldl :
    ∀ (rest : List (Active σ)) (cur : World ρ σ), cur.handle.requested = true →
      (∀ e ∈ cur.live, e.awaitsCancel = true → ∃ e' ∈ rest, e'.key = e.key ∧ e'.awaitsCancel = true) →
      ∀ e ∈ (rest.foldl releaseWorker cur).live, e.awaitsCancel = false
  | [], cur, _, hinv => fun e he => by
      cases hc : e.awaitsCancel
      · rfl
      · obtain ⟨_, hmem, -⟩ := hinv e he hc
        cases hmem
  | e' :: rest, cur, hreq, hinv => by
      refine releaseWorker_foldl rest _ ((handle_releaseWorker cur e').symm ▸ hreq) fun e he hc => ?_
      obtain ⟨hmem, hne⟩ := awaitsCancel_releaseWorker hreq he hc
      obtain ⟨e'', hmem'', hkey, hw''⟩ := hinv e hmem hc
      refine ⟨e'', ?_, hkey, hw''⟩
      -- the worker waiting for `e` is not the one just looked at
      rcases List.mem_cons.1 hmem'' with rfl | hrest
      · rcases hne with hne | hne
        · exact absurd hkey.symm hne
        · simp_all
      · exact hrest

/-- With the handle asked, waking the waiters leaves no worker waiting for its job's
cancellation. -/
theorem wakeSignalled_releases {w : World ρ σ} (h : w.handle.requested = true) :
    ∀ e ∈ w.wakeSignalled.live, e.awaitsCancel = false := by
  unfold wakeSignalled
  dsimp only
  refine releaseWorker_foldl _ _ ?_ fun e he hc => ⟨e, he, rfl, hc⟩
  split
  · split
    · exact h
    · exact h
  · exact h

/-- A stop request releases every job waiting for its cancellation. -/
theorem askStop_releases (w : World ρ σ) : ∀ e ∈ w.askStop.live, e.awaitsCancel = false :=
  wakeSignalled_releases (Shutdown.request_requested _)

/-- So does a forced stop. -/
theorem forceStop_releases (w : World ρ σ) : ∀ e ∈ w.forceStop.live, e.awaitsCancel = false :=
  wakeSignalled_releases rfl

/-! ## The breaker -/

/-- At every point of a run and at every later one, whatever the runner, the order in which jobs
finish and the stop requests: the outcomes published at the first point stay published; a trip
is the breaker's verdict at the first outcome on which it has one, with the breaker enabled, and
the coordinator stopped on it; until the coordinator stops, the breaker has no verdict on any
outcome published so far; nothing is dispatched once the outcome of the trip is in; a run that
ends on the breaker reports its trip; a trip on consecutive failures counts exactly its limit
when the limit is positive, as validation requires (`Config.maxConsecutiveFailures_pos`), and one
on the failure rate counts every outcome so far, at least one and at least the minimum the rate
check waits for; and with the breaker off, every request the handle received came from
outside. -/
theorem trip_is_first_breaker_verdict (cfg : Config) (runner : Runner ρ σ) (shared : ρ)
    (sinks : List Sink) (jobs : List Job) (requests : List (Nat × Request))
    (checked : List Log.Event) (plan : Plan) (limit : Nat) {m w : World ρ σ}
    (hm : Turns plan runner limit (launchWorld cfg runner shared sinks jobs requests checked) m)
    (hw : Turns plan runner limit m w) :
    let a := plan.config.autoStop
    let ss := w.published.map (·.status)
    m.published <+: w.published ∧
    (∀ t, w.trip = some t →
      a.enabled = true ∧ w.pool.shutdownRequested = true ∧ ∃ k, Breaker.FirstTrip a ss k t) ∧
    (m.pool.shutdownRequested = false →
      m.trip = none ∧ (a.enabled = true → Breaker.Silent a ss m.published.length)) ∧
    (∀ t k, w.trip = some t → Breaker.FirstTrip a ss k t → k ≤ m.published.length →
      w.pool.dispatched = m.pool.dispatched) ∧
    (∀ s t, w.result = some s → s.stopReason = .autoStop t → a.enabled = true ∧ w.trip = some t) ∧
    (∀ c l, w.trip = some (.consecutive c l) → 0 < a.maxConsecutiveFailures →
      c = a.maxConsecutiveFailures ∧ l = a.maxConsecutiveFailures) ∧
    (∀ r l c, w.trip = some (.rate r l c) →
      Breaker.FirstTrip a ss c (.rate r l c) ∧ 0 < c ∧ a.minTasksForRateCheck ≤ c) ∧
    (a.enabled = false → w.trip = none ∧ w.handle.requests + w.requests.length = requests.length) := by
  intro a ss
  obtain ⟨hm', hk⟩ := keeps_run cfg runner shared sinks jobs requests checked hm hw
  have hw' := hk.accounts
  have hpre : m.published <+: w.published := hk.grows.published
  -- what the breaker says of the outcomes published at `m`, it says of them at `w`
  have hsilent (hsd : m.pool.shutdownRequested = false) (hen : a.enabled = true) :
      Breaker.Silent a ss m.published.length := by
    obtain ⟨xs, hxs⟩ := hpre
    have h := (hm'.silent hen hsd).append le_rfl (xs.map (·.status))
    rw [Ledger.statuses, List.length_map] at h
    show Breaker.Silent a (w.published.map (·.status)) m.published.length
    rw [← hxs, List.map_append]
    exact h
  refine ⟨hpre, fun t ht => ?_, fun hsd => ⟨hm'.trip_none hsd, hsilent hsd⟩,
    fun t k ht hft hkm => ?_, fun s t hs hr => ?_, fun c l ht hpos => ?_, fun r l c ht => ?_,
    fun hoff => ?_⟩
  · exact ⟨(hw'.of_trip ht).1, (hw'.of_trip ht).2, hw'.first t ht⟩
  · -- the coordinator had stopped by the time the outcome of the trip was in
    cases hsd : m.pool.shutdownRequested
    · have hnone := hsilent hsd (hw'.of_trip ht).1 k hft.1 hkm
      rw [hft.2.2.1] at hnone
      cases hnone
    · exact (hk.grows.stopped hsd).2.1
  · have ht := (hw'.reason s hs).1 t hr
    exact ⟨(hw'.of_trip ht).1, ht⟩
  · obtain ⟨k, hft⟩ := hw'.first _ ht
    exact hft.consecutive hpos
  · obtain ⟨k, hft⟩ := hw'.first _ ht
    obtain ⟨rfl, hpos, hmin⟩ := Breaker.verdictAt_rate hft.2.2.1
    exact ⟨hft, hpos, hmin⟩
  · have htrip : w.trip = none := hw'.trip_none_of_disabled hoff
    refine ⟨htrip, ?_⟩
    have hask : w.handle.requests + w.toCome.length =
        requests.length + (if w.trip.isSome then 1 else 0) := hw'.asked
    simpa [htrip, toCome] using hask

/-- The breaker of a run with one worker trips on its second failure in a row. -/
theorem trip_is_first_breaker_verdict_two_failures :
    let cfg : Config :=
      { limits := { maxWorkers := 1 },
        autoStop := { enabled := true, maxConsecutiveFailures := 2 } }
    let runner := scriptRunner "scripted" (fun _ => .ok ()) fun d =>
      if d.taskIndex = 3 then .timed .success 10 else .timed .failure 10
    let jobs : List Job := [.file "fail:10", .file "fail:10", .file "ok:10"]
    let requests : List (Nat × Request) := []
    let plan := launchPlan cfg runner [] jobs
    let m := (launchWorld cfg runner () [] jobs requests []).steps plan runner 1000 false 4
    let w := m.steps plan runner 1000 false 20
    let a := plan.config.autoStop
    let ss := w.published.map (·.status)
    m.published <+: w.published ∧
    (∀ t, w.trip = some t →
      a.enabled = true ∧ w.pool.shutdownRequested = true ∧ ∃ k, Breaker.FirstTrip a ss k t) ∧
    (m.pool.shutdownRequested = false →
      m.trip = none ∧ (a.enabled = true → Breaker.Silent a ss m.published.length)) ∧
    (∀ t k, w.trip = some t → Breaker.FirstTrip a ss k t → k ≤ m.published.length →
      w.pool.dispatched = m.pool.dispatched) ∧
    (∀ s t, w.result = some s → s.stopReason = .autoStop t → a.enabled = true ∧ w.trip = some t) ∧
    (∀ c l, w.trip = some (.consecutive c l) → 0 < a.maxConsecutiveFailures →
      c = a.maxConsecutiveFailures ∧ l = a.maxConsecutiveFailures) ∧
    (∀ r l c, w.trip = some (.rate r l c) →
      Breaker.FirstTrip a ss c (.rate r l c) ∧ 0 < c ∧ a.minTasksForRateCheck ≤ c) ∧
    (a.enabled = false → w.trip = none ∧ w.handle.requests + w.requests.length = requests.length) :=
  trip_is_first_breaker_verdict _ _ () [] _ _ [] _ 1000 (Turns.steps _ .here) (Turns.steps _ .here)

/-! ## Stop requests -/

/-- At every point of a run and at every later one, whatever the runner, the order in which jobs
finish and the stop requests: a request, asking or forcing, releases every job waiting for its
job's cancellation; once the handle is asked it stays asked, and every job that starts or goes
on sees its cancellation; once the coordinator took note of a stop, or the breaker tripped,
nothing more is dispatched or taken off the queue of jobs; the run ends only with no job running,
waiting or in flight, every dispatched job's outcome published; and it reports a stop request as
its reason only after a request from outside was delivered. -/
theorem stop_requests_are_graceful (cfg : Config) (runner : Runner ρ σ) (shared : ρ)
    (sinks : List Sink) (jobs : List Job) (requests : List (Nat × Request))
    (checked : List Log.Event) (plan : Plan) (limit : Nat) {m w : World ρ σ}
    (hm : Turns plan runner limit (launchWorld cfg runner shared sinks jobs requests checked) m)
    (hw : Turns plan runner limit m w) :
    (∀ v : World ρ σ, (∀ e ∈ v.askStop.live, e.awaitsCancel = false) ∧
      ∀ e ∈ v.forceStop.live, e.awaitsCancel = false) ∧
    (m.handle.requested = true → w.handle.requested = true ∧ w.signals.cancelled = true) ∧
    (m.pool.shutdownRequested = true ∨ m.trip.isSome = true →
      w.pool.dispatched = m.pool.dispatched ∧ w.pool.pending = m.pool.pending) ∧
    (w.result.isSome = true → w.live = [] ∧ w.joined = [] ∧ w.pool.inFlight = [] ∧
      w.published.length = w.pool.dispatched) ∧
    (∀ s, w.result = some s → s.stopReason = .shutdown ∨ s.stopReason = .forcedShutdown →
      w.requests.length < requests.length) := by
  obtain ⟨hm', hk⟩ := keeps_run cfg runner shared sinks jobs requests checked hm hw
  have hw' := hk.accounts
  refine ⟨fun v => ⟨askStop_releases v, forceStop_releases v⟩, fun hreq => ?_, fun hstop => ?_,
    fun hres => ?_, fun s hs hr => ?_⟩
  · have hasked := hk.grows.asked hreq
    exact ⟨hasked, hasked⟩
  · -- a trip stops the coordinator too
    have hsd : m.pool.shutdownRequested = true := hstop.elim id fun ht => (hm'.tripped ht).2
    obtain ⟨-, hd, hq, -⟩ := hk.grows.stopped hsd
    exact ⟨hd, hq⟩
  · obtain ⟨hst, hj, hin⟩ := hw'.ended hres
    have hin : w.pool.inFlight = [] := hin
    have hflights : w.published.length + w.pool.inFlight.length = w.pool.dispatched := hw'.flights
    rw [hin, List.length_nil, Nat.add_zero] at hflights
    exact ⟨by simpa [ledger, started] using hst, hj, hin, hflights⟩
  · obtain ⟨htrip, hpos⟩ := (hw'.reason s hs).2 hr
    have htrip : w.trip = none := htrip
    have hpos : 0 < w.handle.requests := hpos
    have hask : w.handle.requests + w.toCome.length =
        requests.length + (if w.trip.isSome then 1 else 0) := hw'.asked
    simp only [htrip, toCome, List.length_map, Option.isSome_none, Bool.false_eq_true, if_false,
      Nat.add_zero] at hask
    omega

/-- A request at 10 ms to a run of a failing and a stubborn job. -/
theorem stop_requests_are_graceful_request_at_ten :
    let cfg : Config := { limits := { maxWorkers := 2 } }
    let runner := scriptRunner "scripted" (fun _ => .ok ()) fun d =>
      if d.taskIndex = 1 then .timed .failure 10 else .stubborn
    let jobs : List Job := [.file "fail:10", .file "stubborn"]
    let requests : List (Nat × Request) := [(10, .shutdown)]
    let plan := launchPlan cfg runner [] jobs
    let m := (launchWorld cfg runner () [] jobs requests []).steps plan runner 1000 false 6
    let w := m.steps plan runner 1000 false 20
    (∀ v : World Unit Scripted, (∀ e ∈ v.askStop.live, e.awaitsCancel = false) ∧
      ∀ e ∈ v.forceStop.live, e.awaitsCancel = false) ∧
    (m.handle.requested = true → w.handle.requested = true ∧ w.signals.cancelled = true) ∧
    (m.pool.shutdownRequested = true ∨ m.trip.isSome = true →
      w.pool.dispatched = m.pool.dispatched ∧ w.pool.pending = m.pool.pending) ∧
    (w.result.isSome = true → w.live = [] ∧ w.joined = [] ∧ w.pool.inFlight = [] ∧
      w.published.length = w.pool.dispatched) ∧
    (∀ s, w.result = some s → s.stopReason = .shutdown ∨ s.stopReason = .forcedShutdown →
      w.requests.length < requests.length) :=
  stop_requests_are_graceful _ _ () [] _ _ [] _ 1000 (Turns.steps _ .here) (Turns.steps _ .here)

/-! ## Forcing the stop -/

variable {jobs : List Job} {m n : Nat} {forcing : Bool} {w w' : World ρ σ}

end World

end Fanout

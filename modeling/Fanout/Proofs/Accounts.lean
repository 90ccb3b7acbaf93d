import Fanout.Proofs.Books
import Fanout.Proofs.Remainder
import Fanout.Proofs.Tally

/-!
# The accounts of a run

Besides its books (`World.Inv`), a run keeps accounts of what it has done and was asked to do:
the pool with its counters, the outcomes the sinks were given, the breaker's trip, the stop
handle with the stop requests still to come, the summary once the run ended, and the jobs being
worked on or waiting for the coordinator. They make up the run's `Ledger`, and every step of a
run moves the ledger in one of a few ways: an outcome is counted and published and the breaker
tested, a job is dispatched, the coordinator stops dispatching, a request is delivered, the run
concludes; everything else leaves it as it is.

`Ledger.Accounts` says what a ledger of a run satisfies, and every turn keeps it
(`World.accounts_turns`):

* the counters are those of the outcomes published, in order, and a dispatched job is either
  published or in flight;
* every request the handle received is a delivered stop request or the breaker's own; the
  handle is asked once it received one, and it is forced only after a second, unless a forcing
  request was among those to come;
* the coordinator stops dispatching only on an asked handle; the breaker trips only when
  enabled, at the first outcome on which it has a verdict, and until the coordinator stops it has
  no verdict on any outcome;
* a run ends with nothing running, waiting or in flight, and its stop reason names the trip, or
  else follows a request.

What a run never undoes relates a ledger to a later one (`Ledger.Grows`): an asked handle stays
asked, published outcomes stay published, and once the coordinator stops, nothing more is
dispatched and the trip stays as it is.
-/

namespace Fanout

/-- What the accounts of a run read of its world. -/
structure Ledger where
  pool : Pool
  published : List Outcome
  trip : Option Trip
  handle : Shutdown
  /-- The stop requests still to come, by index and kind. -/
  toCome : List (Nat × Request)
  result : Option Summary
  /-- The jobs being worked on, with what their workers were given. -/
  started : List (Nat × Dispatch)
  /-- The finished jobs waiting for the coordinator. -/
  joined : List (Nat × Except String Outcome)

namespace Shutdown

@[simp] theorem request_requests (s : Shutdown) : s.request.2.requests = s.requests + 1 := by
  unfold request
  split <;> rfl

@[simp] theorem request_requested (s : Shutdown) : s.request.2.requested = true := by
  unfold request
  split <;> rfl

@[simp] theorem request_forced (s : Shutdown) :
    s.request.2.forced = (s.forced || decide (0 < s.requests)) := by
  unfold request
  split <;> simp_all

/-- A handle that has counted its requests: it is asked once it received one, and it is forced
only after a second, unless `forcing` lets a request force it at once. -/
structure Counted (forcing : Bool) (s : Shutdown) : Prop where
  requested : s.requested = decide (0 < s.requests)
  forced : s.forced = true → 0 < s.requests ∧ (2 ≤ s.requests ∨ forcing = true)

theorem counted_default (forcing : Bool) : Counted forcing {} := ⟨rfl, fun h => by cases h⟩

theorem Counted.request {forcing : Bool} {s : Shutdown} (h : s.Counted forcing) :
    s.request.2.Counted forcing := by
  refine ⟨by simp, fun hf => ?_⟩
  simp only [request_forced, Bool.or_eq_true, decide_eq_true_eq] at hf
  simp only [request_requests]
  rcases hf with hf | hpos
  · have := h.forced hf
    omega
  · omega

theorem Counted.force {forcing : Bool} {s : Shutdown} (hf : forcing = true) :
    s.force.Counted forcing :=
  ⟨by simp [Shutdown.force], fun _ => ⟨by simp [Shutdown.force], .inr hf⟩⟩

end Shutdown

namespace Pool

open Breaker

/-! Steps of the pool that leave its counters alone. -/

theorem Tallies.requestShutdown {p : Pool} {ss : List Status} (h : p.Tallies ss) :
    p.requestShutdown.2.Tallies ss := ⟨h.total, h.completed, h.failed, h.streak⟩

theorem Tallies.complete {p : Pool} {ss : List Status} (h : p.Tallies ss) (k : Nat) :
    (p.complete k).2.Tallies ss := by
  unfold Pool.complete
  split
  · exact ⟨h.total, h.completed, h.failed, h.streak⟩
  · exact h

theorem Tallies.takeInFlight {p : Pool} {ss : List Status} (h : p.Tallies ss) :
    p.takeInFlight.2.Tallies ss := ⟨h.total, h.completed, h.failed, h.streak⟩

theorem Tallies.dispatchNext {p : Pool} {ss : List Status} (h : p.Tallies ss) (now : Nat) :
    (p.dispatchNext now).2.Tallies ss := by
  rcases dispatchNext_cases p now with hn | ⟨x, xs, job, rest, -, -, -, he⟩
  · rw [hn]
    exact h
  · rw [he]
    exact ⟨h.total, h.completed, h.failed, h.streak⟩

end Pool

namespace Ledger

open Breaker

/-- The statuses of the outcomes published, in order. -/
def statuses (l : Ledger) : List Status := l.published.map (·.status)

/-- Count an outcome and hand it to the sinks. -/
def account (l : Ledger) (o : Outcome) : Ledger :=
  { l with pool := l.pool.record o.status, published := l.published ++ [o] }

/-- The breaker's test on the accounts: on a verdict, with the breaker enabled and the
coordinator still dispatching, the trip is set, the coordinator stops and the handle is asked. -/
def test (a : AutoStop) (l : Ledger) : Ledger :=
  if !a.enabled || l.pool.shutdownRequested then l
  else
    match evaluate l.pool.consecutiveFailures l.pool.totalCompleted l.pool.failed a with
    | none => l
    | some t => { l with trip := some t, pool := l.pool.requestShutdown.2, handle := l.handle.request.2 }

@[simp] theorem statuses_account (l : Ledger) (o : Outcome) :
    (l.account o).statuses = l.statuses ++ [o.status] := by
  simp [statuses, account]

/-- Everything the breaker's test can do, with its guards. -/
theorem test_cases (a : AutoStop) (l : Ledger) :
    (l.test a = l ∧ (a.enabled = true → l.pool.shutdownRequested = false →
      evaluate l.pool.consecutiveFailures l.pool.totalCompleted l.pool.failed a = none)) ∨
    ∃ t, a.enabled = true ∧ l.pool.shutdownRequested = false ∧
      evaluate l.pool.consecutiveFailures l.pool.totalCompleted l.pool.failed a = some t ∧
      l.test a = { l with trip := some t, pool := l.pool.requestShutdown.2,
                          handle := l.handle.request.2 } := by
  unfold test
  split
  · next hoff =>
      refine .inl ⟨rfl, fun hen hsd => ?_⟩
      simp [hen, hsd] at hoff
  · next hon =>
      simp only [Bool.or_eq_true, Bool.not_eq_true', not_or, Bool.not_eq_false] at hon
      split
      · next hnone => exact .inl ⟨rfl, fun _ _ => hnone⟩
      · next t ht => exact .inr ⟨t, by simpa using hon.1, by simpa using hon.2, ht, rfl⟩

/-! ## The accounts -/

/-- The accounts of a run whose breaker is set by `a`, with `n` stop requests from outside,
among which a forcing one only if `forcing` holds. -/
structure Accounts (a : AutoStop) (n : Nat) (forcing : Bool) (l : Ledger) : Prop where
  tallies : l.pool.Tallies l.statuses
  flights : l.published.length + l.pool.inFlight.length = l.pool.dispatched
  handle : l.handle.Counted forcing
  /-- Each request the handle received came from outside or from the breaker. -/
  asked : l.handle.requests + l.toCome.length = n + (if l.trip.isSome then 1 else 0)
  indices : (l.toCome.map (·.1)).Nodup
  forcers : ∀ x ∈ l.toCome, x.2 = .force → forcing = true
  latch : l.pool.shutdownRequested = true → l.handle.requested = true
  tripped : l.trip.isSome = true → a.enabled = true ∧ l.pool.shutdownRequested = true
  silent : a.enabled = true → l.pool.shutdownRequested = false →
    Silent a l.statuses l.statuses.length
  first : ∀ t, l.trip = some t → ∃ k, FirstTrip a l.statuses k t
  ended : l.result.isSome = true → l.started = [] ∧ l.joined = [] ∧ l.pool.inFlight = []
  reason : ∀ s, l.result = some s →
    (∀ t, s.stopReason = .autoStop t → l.trip = some t) ∧
    (s.stopReason = .shutdown ∨ s.stopReason = .forcedShutdown →
      l.trip = none ∧ 0 < l.handle.requests)

variable {a : AutoStop} {n : Nat} {forcing : Bool} {l : Ledger}

theorem Accounts.trip_none (h : l.Accounts a n forcing) (hsd : l.pool.shutdownRequested = false) :
    l.trip = none := by
  cases ht : l.trip with
  | none => rfl
  | some t =>
      have := (h.tripped (by simp [ht])).2
      simp_all

/-- A trip comes only with the breaker enabled, and stops the coordinator. -/
theorem Accounts.of_trip (h : l.Accounts a n forcing) {t : Trip} (ht : l.trip = some t) :
    a.enabled = true ∧ l.pool.shutdownRequested = true :=
  h.tripped (by simp [ht])

theorem Accounts.trip_none_of_disabled (h : l.Accounts a n forcing) (hoff : a.enabled = false) :
    l.trip = none := by
  cases ht : l.trip with
  | none => rfl
  | some t =>
      have := (h.of_trip ht).1
      simp_all

/-- While nothing has ended, the jobs being worked on and waiting do not enter the accounts. -/
theorem Accounts.running (h : l.Accounts a n forcing) (hr : l.result = none)
    (st : List (Nat × Dispatch)) (j : List (Nat × Except String Outcome)) :
    { l with started := st, joined := j }.Accounts a n forcing :=
  { h with
    ended := fun he => by simp [hr] at he
    reason := fun s hs => by simp [hr] at hs }

/-- The coordinator stops dispatching once the handle is asked. -/
theorem Accounts.notice (h : l.Accounts a n forcing) (hreq : l.handle.requested = true) :
    { l with pool := l.pool.requestShutdown.2 }.Accounts a n forcing :=
  { h with
    tallies := h.tallies.requestShutdown
    latch := fun _ => hreq
    tripped := fun ht => ⟨(h.tripped ht).1, rfl⟩
    silent := fun _ hsd => by simp [Pool.requestShutdown] at hsd
    ended := h.ended }

/-- A dispatch puts a job in flight and to work. -/
theorem Accounts.dispatch (h : l.Accounts a n forcing) (hr : l.result = none) {now k : Nat}
    {d : Dispatch} {p : Pool} (hd : l.pool.dispatchNext now = (some (k, d), p)) :
    { l with pool := p, started := l.started ++ [(k, d)] }.Accounts a n forcing := by
  have hts := h.tallies.dispatchNext now
  rw [hd] at hts
  obtain ⟨x, xs, job, rest, hsd, -, -, -, -, rfl⟩ := Pool.dispatchNext_eq_some hd
  exact { h with
    tallies := hts
    flights := by simp only [List.length_append, List.length_singleton]; have := h.flights; omega
    latch := fun hs => by simp [hsd] at hs
    tripped := fun ht => absurd (h.tripped ht).2 (by simp [hsd])
    silent := fun hen _ => h.silent hen hsd
    ended := fun he => by simp [hr] at he
    reason := fun s hs => by simp [hr] at hs }

/-- Taking in a finished job: it leaves flight, its outcome is counted and published, and the
breaker is tested on the counters that now include it. -/
theorem Accounts.consolidate (h : l.Accounts a n forcing) (hr : l.result = none) {k : Nat}
    (hn : (l.pool.inFlight.map (·.1)).Nodup) (hk : k ∈ l.pool.inFlight.map (·.1)) (o : Outcome)
    (rest : List (Nat × Except String Outcome)) :
    (({ l with pool := (l.pool.complete k).2, joined := rest }.account o).test a).Accounts a n
      forcing := by
  set l1 := { l with pool := (l.pool.complete k).2, joined := rest }.account o with hl1
  obtain ⟨f, -, hc⟩ := World.complete_of_mem hk
  -- the job leaves flight once, and its outcome is counted after the others
  have hts : l1.pool.Tallies l1.statuses := by
    rw [hl1, statuses_account]
    exact (h.tallies.complete k).record o.status
  have hflights : l1.published.length + l1.pool.inFlight.length = l1.pool.dispatched := by
    have hlen := (World.perm_cons_filter_key hn hk).length_eq
    simp only [List.length_map, List.length_cons] at hlen
    simp only [hl1, account, hc, Pool.record_eq, List.length_append, List.length_singleton]
    have := h.flights
    omega
  have hsd1 : l1.pool.shutdownRequested = l.pool.shutdownRequested := by
    simp [hl1, account, hc, Pool.record_eq]
  have hst1 : l1.statuses = l.statuses ++ [o.status] := statuses_account _ o
  have hfirst1 : ∀ t, l1.trip = some t → ∃ k, FirstTrip a l1.statuses k t := fun t ht => by
    obtain ⟨k, hk⟩ := h.first t ht
    exact ⟨k, hst1 ▸ hk.append _⟩
  rcases test_cases a l1 with ⟨heq, hnone⟩ | ⟨t, hen, hsd, hev, heq⟩
  · rw [heq]
    exact { h with
      tallies := hts
      flights := hflights
      latch := fun hs => h.latch (hsd1 ▸ hs)
      tripped := fun ht => hsd1 ▸ h.tripped ht
      silent := fun hen hsd => by
        rw [hst1]
        refine (h.silent hen (hsd1 ▸ hsd)).concat ?_
        rw [← hst1, ← hnone hen hsd, hts.evaluate]
        simp [hst1]
      first := hfirst1
      ended := fun he => by simp [hl1, account, hr] at he
      reason := fun s hs => by simp [hl1, account, hr] at hs }
  · -- the breaker trips: the first verdict, since it was silent until now
    rw [heq]
    have htrip : l.trip = none := h.trip_none (hsd1 ▸ hsd)
    exact { h with
      tallies := hts.requestShutdown
      flights := hflights
      handle := h.handle.request
      asked := by
        simp only [Shutdown.request_requests, Option.isSome_some, if_true]
        have := h.asked
        simp only [htrip, Option.isSome_none, Bool.false_eq_true, if_false] at this
        simp only [hl1, account]
        omega
      latch := fun _ => Shutdown.request_requested _
      tripped := fun _ => ⟨hen, rfl⟩
      silent := fun _ hs => by simp [Pool.requestShutdown] at hs
      first := fun t' ht' => by
        simp only [Option.some.injEq] at ht'
        subst ht'
        show ∃ k, FirstTrip a l1.statuses k _
        refine ⟨l.statuses.length + 1, ?_⟩
        rw [hst1]
        refine FirstTrip.of_silent (h.silent hen (hsd1 ▸ hsd)) ?_
        rw [← hev, hts.evaluate, hst1]
        simp
      ended := fun he => by simp [hl1, account, hr] at he
      reason := fun s hs => by simp [hl1, account, hr] at hs }

/-- The run concludes with nothing left in flight, its summary giving the trip as the reason
when there is one, and a stop request's reason only on a request. -/
theorem Accounts.conclude (h : l.Accounts a n forcing) (hs : l.started = []) (hj : l.joined = [])
    (hin : l.pool.inFlight = []) (s : Summary)
    (hauto : ∀ t, s.stopReason = .autoStop t → l.trip = some t)
    (hstop : s.stopReason = .shutdown ∨ s.stopReason = .forcedShutdown →
      l.trip = none ∧ (l.handle.forced = true ∨ l.pool.shutdownRequested = true)) :
    { l with pool := l.pool.takeInFlight.2, result := some s }.Accounts a n forcing :=
  { h with
    tallies := h.tallies.takeInFlight
    flights := by simp [Pool.takeInFlight, hin, ← h.flights]
    ended := fun _ => ⟨hs, hj, rfl⟩
    reason := fun s' hs' => by
      simp only [Option.some.injEq] at hs'
      subst hs'
      refine ⟨hauto, fun hr => ⟨(hstop hr).1, ?_⟩⟩
      -- a forced handle or a stopped coordinator both mean the handle was asked
      have hreq : l.handle.requested = true := by
        rcases (hstop hr).2 with hf | hsd
        · have := (h.handle.forced hf).1
          rw [h.handle.requested]
          simpa using this
        · exact h.latch hsd
      rw [h.handle.requested] at hreq
      simpa using hreq }

/-- A stop request from outside reaches the handle, once. -/
theorem Accounts.deliver (h : l.Accounts a n forcing) {i : Nat} {r : Request}
    (hi : (i, r) ∈ l.toCome) {s : Shutdown}
    (hs : s = l.handle.request.2 ∨ (r = .force ∧ s = l.handle.force)) :
    { l with toCome := l.toCome.filter (·.1 != i), handle := s }.Accounts a n forcing := by
  have hlen := (World.perm_cons_filter_key h.indices (List.mem_map_of_mem (f := (·.1)) hi)).length_eq
  simp only [List.length_map, List.length_cons] at hlen
  have hcount : s.Counted forcing ∧ s.requests = l.handle.requests + 1 ∧ s.requested = true := by
    rcases hs with rfl | ⟨rfl, rfl⟩
    · exact ⟨h.handle.request, by simp, by simp⟩
    · exact ⟨Shutdown.Counted.force (h.forcers _ hi rfl), rfl, rfl⟩
  exact { h with
    handle := hcount.1
    asked := by have := h.asked; dsimp only; omega
    indices := h.indices.sublist (List.filter_sublist.map _)
    forcers := fun x hx => h.forcers x (List.mem_of_mem_filter hx)
    latch := fun _ => hcount.2.2
    reason := fun s' hs' => ⟨(h.reason s' hs').1, fun hr => ⟨((h.reason s' hs').2 hr).1, by
      dsimp only
      omega⟩⟩ }

/-! ## What a run never undoes -/

/-- From a ledger to a later one of the same run: an asked handle stays asked, published
outcomes stay published, and once the coordinator stops, nothing more is dispatched or taken
off the queue of jobs, and the trip stays as it is. -/
structure Grows (l l' : Ledger) : Prop where
  asked : l.handle.requested = true → l'.handle.requested = true
  published : l.published <+: l'.published
  stopped : l.pool.shutdownRequested = true →
    l'.pool.shutdownRequested = true ∧ l'.pool.dispatched = l.pool.dispatched ∧
      l'.pool.pending = l.pool.pending ∧ l'.trip = l.trip

theorem Grows.refl (l : Ledger) : Grows l l := ⟨id, List.prefix_refl _, fun h => ⟨h, rfl, rfl, rfl⟩⟩

theorem Grows.trans {l l' l'' : Ledger} (h : Grows l l') (h' : Grows l' l'') : Grows l l'' :=
  ⟨h'.asked ∘ h.asked, h.published.trans h'.published, fun hs =>
    have h1 := h.stopped hs
    have h2 := h'.stopped h1.1
    ⟨h2.1, h2.2.1.trans h1.2.1, h2.2.2.1.trans h1.2.2.1, h2.2.2.2.trans h1.2.2.2⟩⟩

/-- A step that leaves the handle, the published outcomes, the trip and the pool's stop,
dispatches and queue of jobs as they were. -/
theorem Grows.of_eq {l l' : Ledger} (hh : l'.handle = l.handle) (hp : l'.published = l.published)
    (ht : l'.trip = l.trip) (hsd : l'.pool.shutdownRequested = l.pool.shutdownRequested)
    (hd : l'.pool.dispatched = l.pool.dispatched) (hq : l'.pool.pending = l.pool.pending) :
    Grows l l' :=
  ⟨fun h => hh ▸ h, hp ▸ List.prefix_refl _, fun h => ⟨hsd ▸ h, hd, hq, ht⟩⟩

theorem grows_notice (l : Ledger) : Grows l { l with pool := l.pool.requestShutdown.2 } :=
  ⟨id, List.prefix_refl _, fun _ => ⟨rfl, rfl, rfl, rfl⟩⟩

theorem grows_dispatch {l : Ledger} {now k : Nat} {d : Dispatch} {p : Pool}
    (hd : l.pool.dispatchNext now = (some (k, d), p)) (st : List (Nat × Dispatch)) :
    Grows l { l with pool := p, started := st } := by
  refine ⟨id, List.prefix_refl _, fun hs => ?_⟩
  rw [Pool.dispatchNext_of_shutdown hs] at hd
  cases hd

theorem grows_consolidate (a : AutoStop) (l : Ledger) (k : Nat) (o : Outcome)
    (rest : List (Nat × Except String Outcome)) :
    Grows l (({ l with pool := (l.pool.complete k).2, joined := rest }.account o).test a) := by
  set l1 := { l with pool := (l.pool.complete k).2, joined := rest }.account o with hl1
  have hp1 : l1.pool.shutdownRequested = l.pool.shutdownRequested ∧
      l1.pool.dispatched = l.pool.dispatched ∧ l1.pool.pending = l.pool.pending := by
    rcases Pool.complete_cases l.pool k with hn | ⟨f, -, hc⟩
    · simp [hl1, account, hn, Pool.record_eq]
    · simp [hl1, account, hc, Pool.record_eq]
  have hg1 : Grows l l1 := ⟨id, List.prefix_append _ _, fun hs =>
    ⟨hp1.1 ▸ hs, hp1.2.1, hp1.2.2, rfl⟩⟩
  refine hg1.trans ?_
  rcases test_cases a l1 with ⟨heq, -⟩ | ⟨t, -, hsd, -, heq⟩
  · rw [heq]
    exact .refl l1
  · rw [heq]
    exact ⟨fun _ => Shutdown.request_requested _, List.prefix_refl _, fun hs => by simp_all⟩

theorem grows_deliver {l : Ledger} {s : Shutdown} (hs : s.requested = true)
    (c : List (Nat × Request)) : Grows l { l with toCome := c, handle := s } :=
  ⟨fun _ => hs, List.prefix_refl _, fun h => ⟨h, rfl, rfl, rfl⟩⟩

end Ledger

namespace World

variable {ρ σ : Type}

/-- The stop requests still to come, by index and kind. -/
def toCome (w : World ρ σ) : List (Nat × Request) := w.requests.map fun x => (x.1, x.2.request)

/-- The ledger of a world: what its accounts read of it. -/
def ledger (w : World ρ σ) : Ledger :=
  ⟨w.pool, w.published, w.trip, w.handle, w.toCome, w.result, w.started, w.joined⟩

/-! ## How each step moves the ledger -/

/-- A step that keeps the books, the outcomes published, the trip, the handle, the requests to
come and the result leaves the ledger as it was. -/
theorem ledger_of_sameBooks {w w' : World ρ σ} (h : SameBooks w w')
    (hp : w'.published = w.published) (ht : w'.trip = w.trip) (hh : w'.handle = w.handle)
    (hc : w'.toCome = w.toCome) (hr : w'.result = w.result) : w'.ledger = w.ledger := by
  simp only [ledger, h.pool, h.joined, h.started, hp, ht, hh, hc, hr]

/-- Waking waiters leaves the ledger as it was. -/
theorem Woken.ledger {w w' : World ρ σ} (h : Woken w w') : w'.ledger = w.ledger := by
  obtain ⟨q, c, l, rs, rfl, hl, hr⟩ := h
  exact ledger_of_sameBooks ⟨rfl, rfl, hl⟩ rfl rfl rfl hr rfl

theorem ledger_askStop (w : World ρ σ) :
    w.askStop.ledger = { w.ledger with handle := w.handle.request.2 } :=
  (woken_askStop w).ledger

theorem ledger_forceStop (w : World ρ σ) :
    w.forceStop.ledger = { w.ledger with handle := w.handle.force } :=
  (woken_forceStop w).ledger

theorem ledger_publish (plan : Plan) (w : World ρ σ) (o : Outcome) :
    (w.publish plan o).ledger = { w.ledger with published := w.published ++ [o] } := by
  obtain ⟨lg, h⟩ := publish_eq plan w o
  rw [h]
  rfl

theorem ledger_finishSinks (plan : Plan) (w : World ρ σ) (s : Summary) :
    (w.finishSinks plan s).ledger = w.ledger := by
  obtain ⟨lg, h⟩ := finishSinks_eq plan w s
  rw [h]
  rfl

theorem ledger_advance (w : World ρ σ) (t : Nat) : (w.advance t).ledger = w.ledger :=
  (woken_advance w t).ledger

theorem ledger_testBreaker (plan : Plan) (w : World ρ σ) :
    (w.testBreaker plan).ledger = w.ledger.test plan.config.autoStop := by
  -- the world's test and the ledger's read the same counters, so they agree on the verdict
  rcases testBreaker_cases plan w with ⟨he, hnone⟩ | ⟨t, lg, hen, hsd, hev, hw⟩ <;>
    rcases Ledger.test_cases plan.config.autoStop w.ledger with ⟨ht, hnone'⟩ | ⟨t', hen', hsd', hev', ht⟩
  · rw [he, ht]
  · cases (hnone hen' hsd').symm.trans hev'
  · cases (hnone' hen hsd).symm.trans hev
  · have htt : t' = t := Option.some.inj (hev'.symm.trans hev)
    subst htt
    rw [hw.ledger, ht]
    rfl

/-- Taking in a finished job of key `key` that is in flight: it leaves flight, its outcome (the
worker's, or a lost job's record) is counted and published, and the breaker is tested. -/
theorem ledger_consolidate (plan : Plan) (w : World ρ σ) (rest : List (Nat × Except String Outcome))
    {key : Nat} (r : Except String Outcome) {f : Flight} {p : Pool}
    (hc : w.pool.complete key = (some f, p)) :
    ∃ o, (({ w with joined := rest } : World ρ σ).consolidate plan key r).ledger =
      ({ w.ledger with pool := p, joined := rest }.account o).test plan.config.autoStop := by
  obtain ⟨o, lg, -, he⟩ := consolidate_of_complete plan { w with joined := rest } r hc
  refine ⟨o, ?_⟩
  rw [he, ledger_testBreaker, ledger_publish]
  rfl

theorem ledger_noticeStop (plan : Plan) (w : World ρ σ) :
    (w.noticeStop plan).ledger = w.ledger ∨
    (w.handle.requested = true ∧
      (w.noticeStop plan).ledger = { w.ledger with pool := w.pool.requestShutdown.2 }) := by
  rcases noticeStop_cases plan w with ⟨-, he⟩ | ⟨hreq, -, lg, he⟩ <;> rw [he]
  · exact .inl rfl
  · exact .inr ⟨hreq, rfl⟩

theorem ledger_setRequests (w : World ρ σ) (rs : List (Nat × Pending)) :
    ({ w with requests := rs } : World ρ σ).ledger =
      { w.ledger with toCome := rs.map fun x => (x.1, x.2.request) } := rfl

theorem ledger_setResult (w : World ρ σ) (r : Option Summary) :
    ({ w with result := r } : World ρ σ).ledger = { w.ledger with result := r } := rfl

/-- A summary's stop reason is the one it was made with. -/
theorem summary_stopReason {p : Pool} {reason : StopReason} {s : Summary}
    (h : p.summary reason = .ok s) : s.stopReason = reason := by
  obtain ⟨-, rfl⟩ := Summary.make_eq_ok_iff.1 h
  rfl

/-- The run concludes with nothing in flight: the pool lets go of its flights and the summary
keeps the world's stop reason. -/
theorem ledger_conclude (plan : Plan) (w : World ρ σ) (hin : w.pool.inFlight = []) :
    ∃ s : Summary, s.stopReason = w.stopReason ∧
      (w.conclude plan).ledger = { w.ledger with pool := w.pool.takeInFlight.2, result := some s } := by
  obtain ⟨s, lg, hs, he⟩ := conclude_of_inFlight_nil plan w hin
  refine ⟨s, ?_, by rw [he]; rfl⟩
  rcases hs with hs | ⟨e, -, rfl⟩
  · exact summary_stopReason hs
  · rfl

/-- A worker's progress moves only the jobs being worked on and those waiting. -/
theorem ledger_settle (w : World ρ σ) (key : Nat) (p : Progress σ) :
    ∃ st j, (w.settle key p).ledger = { w.ledger with started := st, joined := j } := by
  rcases settle_cases w key p with ⟨s, wait, -, he⟩ | ⟨r, hw⟩
  · rw [he]
    exact ⟨_, _, rfl⟩
  · exact ⟨_, _, hw.ledger⟩

theorem ledger_work (runner : Runner ρ σ) (w : World ρ σ) (key : Nat) :
    ∃ st j, (w.work runner key).ledger = { w.ledger with started := st, joined := j } := by
  rcases work_cases runner w key with he | ⟨-, sh, lg, ex, ru, pk, p, he⟩ <;> rw [he]
  · exact ⟨_, _, rfl⟩
  · exact ledger_settle _ key p

/-- With no worker running, a worker's turn does nothing. -/
theorem work_of_live_nil (runner : Runner ρ σ) {w : World ρ σ} (h : w.live = []) (key : Nat) :
    w.work runner key = w := by
  rcases work_cases runner w key with he | ⟨hk, -⟩
  · exact he
  · simp [h] at hk

/-- A request's turn delivers it when it is due: it leaves the requests to come, and the handle
is asked, or forced by a forcing request. -/
theorem ledger_deliver {w : World ρ σ} (hn : (w.toCome.map (·.1)).Nodup) (i : Nat) :
    (w.deliver i).ledger = w.ledger ∨
    ∃ r s, (i, r) ∈ w.toCome ∧ (s = w.handle.request.2 ∨ (r = .force ∧ s = w.handle.force)) ∧
      (w.deliver i).ledger = { w.ledger with toCome := w.toCome.filter (·.1 != i), handle := s } := by
  have hcome : (w.requests.filter (·.1 != i)).map (fun x => (x.1, x.2.request)) =
      w.toCome.filter (·.1 != i) := by
    simp only [toCome, List.filter_map]
    rfl
  rcases deliver_cases w i with he | ⟨r, hmem, -, ⟨-, he⟩ | ⟨hr, he⟩⟩ | ⟨r, hmem, he⟩ <;> rw [he]
  · exact .inl rfl
  · refine .inr ⟨_, _, List.mem_map_of_mem (f := fun x => (x.1, x.2.request)) hmem, .inl rfl, ?_⟩
    rw [ledger_askStop, ledger_setRequests, hcome]
  · refine .inr ⟨_, _, List.mem_map_of_mem (f := fun x => (x.1, x.2.request)) hmem,
      .inr ⟨hr, rfl⟩, ?_⟩
    rw [ledger_forceStop, ledger_setRequests, hcome]
  · -- only the request of index `i` is armed, and it is the one found
    refine .inl (ledger_of_sameBooks ⟨rfl, rfl, rfl⟩ rfl rfl rfl ?_ rfl)
    refine requests_map_seq fun x hx => ?_
    split
    · next hxi =>
        have hnr : (w.requests.map (·.1)).Nodup := by
          rw [toCome, List.map_map] at hn
          exact hn
        have hsame := List.inj_on_of_nodup_map hnr hx hmem (by simpa using hxi)
        subst hsame
        simp_all
    · exact ⟨rfl, rfl⟩

/-- A dispatch puts a worker to work on the job it was given. -/
theorem ledger_dispatched (w : World ρ σ) (p : Pool) (e : Active σ) :
    ({ w with pool := p, live := w.live ++ [e] } : World ρ σ).ledger =
      { w.ledger with pool := p, started := w.started ++ [(e.key, e.dispatch)] } := by
  simp [ledger, started, toCome]

/-! ## Every turn keeps the accounts -/

/-- A later world of a run: it keeps the accounts, and the ledger grew to it. -/
structure Keeps (a : AutoStop) (n : Nat) (forcing : Bool) (w w' : World ρ σ) : Prop where
  accounts : w'.ledger.Accounts a n forcing
  grows : w.ledger.Grows w'.ledger

variable {a : AutoStop} {n : Nat} {forcing : Bool} {jobs : List Job} {m : Nat}
  {w w' w'' : World ρ σ}

theorem Keeps.refl (h : w.ledger.Accounts a n forcing) : Keeps a n forcing w w := ⟨h, .refl _⟩

theorem Keeps.trans (h : Keeps a n forcing w w') (h' : Keeps a n forcing w' w'') :
    Keeps a n forcing w w'' :=
  ⟨h'.accounts, h.grows.trans h'.grows⟩

/-- A step that moves the ledger to `l`, which keeps the accounts and grew. -/
theorem Keeps.of_move {l : Ledger} (he : w'.ledger = l) (h : l.Accounts a n forcing)
    (hg : w.ledger.Grows l) : Keeps a n forcing w w' :=
  ⟨he ▸ h, he ▸ hg⟩

/-- A step that leaves the ledger as it was. -/
theorem Keeps.of_ledger (h : w.ledger.Accounts a n forcing) (he : w'.ledger = w.ledger) :
    Keeps a n forcing w w' :=
  .of_move he h (.refl _)

/-- A step whose result stays unset, followed by steps that keep it unset. -/
theorem Keeps.then (h : Keeps a n forcing w w' ∧ w'.result = none)
    (k : w'.ledger.Accounts a n forcing → w'.result = none →
      Keeps a n forcing w' w'' ∧ w''.result = none) :
    Keeps a n forcing w w'' ∧ w''.result = none :=
  have h' := k h.1.accounts h.2
  ⟨h.1.trans h'.1, h'.2⟩

theorem keeps_noticeStop (plan : Plan) (h : w.ledger.Accounts a n forcing) :
    Keeps a n forcing w (w.noticeStop plan) ∧ (w.noticeStop plan).result = w.result := by
  rcases ledger_noticeStop plan w with he | ⟨hreq, he⟩
  · exact ⟨.of_ledger h he, congrArg Ledger.result he⟩
  · exact ⟨.of_move he (h.notice hreq) (Ledger.grows_notice _), congrArg Ledger.result he⟩

/-- Dispatching while slots are free; each dispatch puts one more job in flight. -/
theorem keeps_dispatchAll (plan : Plan) :
    ∀ (fuel : Nat) {w : World ρ σ}, w.ledger.Accounts a n forcing → w.result = none →
      Keeps a n forcing w (dispatchAll plan fuel w) ∧ (dispatchAll plan fuel w).result = none
  | 0, _, h, hr => ⟨.refl h, hr⟩
  | fuel + 1, w, h, hr => by
    rcases dispatchAll_succ plan fuel w with ⟨-, he⟩ | ⟨key, d, p, -, -, hd, lg, he⟩ <;> rw [he]
    · exact ⟨.refl h, hr⟩
    · refine Keeps.then ⟨?_, ?_⟩ (keeps_dispatchAll plan fuel)
      · -- queueing the worker, the log and the start delay leave the ledger alone
        exact .of_move (ledger_dispatched w p ⟨key, d, .fresh⟩) (h.dispatch hr hd)
          (Ledger.grows_dispatch hd _)
      · exact hr

/-- The coordinator takes in the first finished job. -/
theorem keeps_consolidate (plan : Plan) (hb : w.Inv jobs m)
    (h : w.ledger.Accounts plan.config.autoStop n forcing) (hr : w.result = none) {key : Nat}
    {r : Except String Outcome} {rest : List (Nat × Except String Outcome)}
    (hj : w.joined = (key, r) :: rest) :
    Keeps plan.config.autoStop n forcing w
        (({ w with joined := rest } : World ρ σ).consolidate plan key r) ∧
      (({ w with joined := rest } : World ρ σ).consolidate plan key r).result = none := by
  have hk := hb.joined_in_flight (hj ▸ List.mem_cons_self)
  obtain ⟨f, -, hc⟩ := complete_of_mem hk
  obtain ⟨o, he⟩ := ledger_consolidate plan w rest r hc
  have hn : (w.pool.inFlight.map (·.1)).Nodup := hb.pool.keys_sorted.nodup
  have hacc := h.consolidate hr hn hk o rest
  have hg := Ledger.grows_consolidate plan.config.autoStop w.ledger key o rest
  have hc' : w.ledger.pool.complete key = (some f, _) := hc
  rw [hc'] at hacc hg
  refine ⟨.of_move he hacc hg, ?_⟩
  -- neither counting nor the breaker touches the result
  show (({ w with joined := rest } : World ρ σ).consolidate plan key r).ledger.result = none
  rw [he]
  rcases Ledger.test_cases plan.config.autoStop ({ w.ledger with pool := _, joined := rest }.account o)
    with ⟨heq, -⟩ | ⟨t, -, -, -, heq⟩ <;> rw [heq] <;> exact hr

/-- The stop reason names the trip when there is one. -/
theorem stopReason_autoStop {w : World ρ σ} {t : Trip} (h : w.stopReason = .autoStop t) :
    w.trip = some t := by
  unfold stopReason at h
  split at h
  · cases h
    assumption
  · split at h
    · cases h
    · split at h <;> cases h

/-- A stop request's reason comes without a trip, on a forced handle or a stopped coordinator. -/
theorem stopReason_requested {w : World ρ σ}
    (h : w.stopReason = .shutdown ∨ w.stopReason = .forcedShutdown) :
    w.trip = none ∧ (w.handle.forced = true ∨ w.pool.shutdownRequested = true) := by
  unfold stopReason at h
  split at h
  · rcases h with h | h <;> cases h
  · next hnone =>
      refine ⟨hnone, ?_⟩
      split at h
      · next hf => exact .inl hf
      · split at h
        · next hs => exact .inr hs
        · rcases h with h | h <;> cases h

/-- The run concludes once nothing is running, waiting or left to dispatch. -/
theorem keeps_conclude (plan : Plan) (hb : w.Inv jobs m) (h : w.ledger.Accounts a n forcing)
    (hl : w.live = []) (hj : w.joined = []) : Keeps a n forcing w (w.conclude plan) := by
  have hin := hb.inFlight_eq_nil hl hj
  obtain ⟨s, hs, he⟩ := ledger_conclude plan w hin
  have hst : w.started = [] := by simp [started, hl]
  refine .of_move he (h.conclude hst hj hin s (fun t ht => stopReason_autoStop (hs ▸ ht))
    (fun hr => stopReason_requested (hs ▸ hr))) ?_
  exact Ledger.Grows.of_eq rfl rfl rfl rfl rfl rfl

/-- The coordinator's loop keeps the accounts from the moment its first round has taken note of
the stop handle, whatever it finds at each round. -/
theorem keeps_coordinate_noticed (plan : Plan) :
    ∀ (fuel : Nat) {w : World ρ σ}, w.Inv jobs m →
      w.ledger.Accounts plan.config.autoStop n forcing → w.result = none →
      Keeps plan.config.autoStop n forcing (w.noticeStop plan) (coordinate plan (fuel + 1) w)
  | fuel, w, hb, h, hr => by
    -- the rounds after the first, if fuel is left for them
    have later : ∀ {u : World ρ σ}, u.Inv jobs m →
        u.ledger.Accounts plan.config.autoStop n forcing → u.result = none →
        Keeps plan.config.autoStop n forcing u (coordinate plan fuel u) := by
      intro u hu hacc hur
      cases fuel with
      | zero => exact .refl hacc
      | succ f =>
        exact (keeps_noticeStop plan hacc).1.trans (keeps_coordinate_noticed plan f hu hacc hur)
    obtain ⟨k1, hr1⟩ := keeps_noticeStop plan h
    obtain ⟨k2, hr2⟩ := keeps_dispatchAll plan ((w.noticeStop plan).pool.pending.length + 1)
      k1.accounts (hr1.trans hr)
    have hb2 := Inv.dispatchAll plan ((w.noticeStop plan).pool.pending.length + 1) (hb.noticeStop plan)
    rcases coordinate_succ plan fuel w _ rfl with ⟨hl, hj, he⟩ | ⟨key, r, rest, hj, he⟩ | he | he <;>
      rw [he]
    · exact k2.trans (keeps_conclude plan hb2 k2.accounts hl hj)
    · obtain ⟨k3, hr3⟩ := keeps_consolidate plan hb2 k2.accounts hr2 hj
      exact k2.trans (k3.trans (later (hb2.consolidate plan hj) k3.accounts hr3))
    · exact k2.trans (later hb2 k2.accounts hr2)
    · exact k2.trans (.of_ledger k2.accounts rfl)

/-- The coordinator's loop keeps the accounts, whatever it finds at each round. -/
theorem keeps_coordinate (plan : Plan) :
    ∀ (fuel : Nat) {w : World ρ σ}, w.Inv jobs m →
      w.ledger.Accounts plan.config.autoStop n forcing → w.result = none →
      Keeps plan.config.autoStop n forcing w (coordinate plan fuel w)
  | 0, _, _, h, _ => .refl h
  | fuel + 1, _, hb, h, hr =>
    (keeps_noticeStop plan h).1.trans (keeps_coordinate_noticed plan fuel hb h hr)

/-- Waking keeps the accounts, whether a finished job is taken in first or not. -/
theorem keeps_resume (plan : Plan) (jobFirst : Bool) (hb : w.Inv jobs m)
    (h : w.ledger.Accounts plan.config.autoStop n forcing) (hr : w.result = none) :
    Keeps plan.config.autoStop n forcing w (w.resume plan jobFirst) ∧
      (w.resume plan jobFirst).result = none := by
  rcases resume_cases plan jobFirst w with he | ⟨key, r, rest, hj, -, he⟩ <;> rw [he]
  · exact ⟨.refl h, hr⟩
  · exact keeps_consolidate plan hb h hr hj

/-- One turn of a run keeps the accounts, whoever takes it. -/
theorem keeps_turn {plan : Plan} {runner : Runner ρ σ} {limit : Nat} {jobFirst : Bool}
    (hb : w.Inv jobs m) (h : w.ledger.Accounts plan.config.autoStop n forcing)
    (ht : w.turn plan runner limit jobFirst = some w') :
    Keeps plan.config.autoStop n forcing w w' := by
  -- taking the first actor off the queue leaves the books and the ledger alone
  have hb0 : ∀ rest, ({ w with queue := rest } : World ρ σ).Inv jobs m :=
    fun _ => hb.of_sameBooks ⟨rfl, rfl, rfl⟩
  have k0 : ∀ rest, Keeps plan.config.autoStop n forcing w { w with queue := rest } :=
    fun _ => .of_ledger h rfl
  rcases turn_cases ht with ⟨rest, -, -, rfl⟩ | ⟨rest, -, hres, rfl⟩ | ⟨k, rest, -, rfl⟩ |
    ⟨i, rest, -, rfl⟩ | ⟨-, t, -, -, rfl⟩
  · exact k0 rest
  · obtain ⟨k1, hr1⟩ := keeps_resume plan jobFirst (hb0 rest) (k0 rest).accounts hres
    exact (k0 rest).trans
      (k1.trans (keeps_coordinate plan _ ((hb0 rest).resume plan jobFirst) k1.accounts hr1))
  · rcases Option.eq_none_or_eq_some w.result with hres | ⟨s, hres⟩
    · obtain ⟨st, j, he⟩ := ledger_work runner { w with queue := rest } k
      exact (k0 rest).trans (.of_move he ((k0 rest).accounts.running hres st j)
        (Ledger.Grows.of_eq rfl rfl rfl rfl rfl rfl))
    · -- after the run's end no worker is left to take a turn
      have hst := (h.ended (by simp [ledger, hres])).1
      have hl : w.live = [] := by simpa [ledger, started] using hst
      rw [work_of_live_nil runner (w := { w with queue := rest }) hl]
      exact k0 rest
  · rcases ledger_deliver (k0 rest).accounts.indices i with he | ⟨r, s, hi, hs, he⟩
    · exact (k0 rest).trans (.of_ledger (k0 rest).accounts he)
    · have hreq : s.requested = true := by
        rcases hs with rfl | ⟨-, rfl⟩
        · exact Shutdown.request_requested _
        · rfl
      exact (k0 rest).trans
        (.of_move he ((k0 rest).accounts.deliver hi hs) (Ledger.grows_deliver hreq _))
  · exact .of_ledger h (ledger_advance _ _)

/-- Every later world of a run keeps the accounts, and its ledger grew from the earlier one. -/
theorem keeps_turns {plan : Plan} {runner : Runner ρ σ} {limit : Nat} {w₀ : World ρ σ}
    (hb₀ : w₀.Inv jobs m) (h₀ : w₀.ledger.Accounts plan.config.autoStop n forcing)
    (hw : Turns plan runner limit w₀ w) : Keeps plan.config.autoStop n forcing w₀ w := by
  induction hw with
  | here => exact .refl h₀
  | turn hw ht ih => exact ih.trans (keeps_turn (hb₀.turns hw) ih.accounts ht)

/-- A run starts with its accounts in order: nothing counted or published, no trip, an unasked
handle, and its stop requests, each under an index of its own, still to come. -/
theorem accounts_launchWorld (cfg : Config) (runner : Runner ρ σ) (shared : ρ) (sinks : List Sink)
    (jobs : List Job) (requests : List (Nat × Request)) (checked : List Log.Event) (a : AutoStop) :
    (launchWorld cfg runner shared sinks jobs requests checked).ledger.Accounts a requests.length
      (requests.any (·.2 == .force)) := by
  have hcome : (launchWorld cfg runner shared sinks jobs requests checked).toCome =
      requests.zipIdx.map fun x => (x.2, x.1.2) := by
    simp only [launchWorld, note, emit, toCome, List.map_map]
    rfl
  refine {
    tallies := Pool.tallies_make jobs _
    flights := rfl
    handle := Shutdown.counted_default _
    asked := ?_
    indices := ?_
    forcers := ?_
    latch := fun h => (Bool.false_ne_true h).elim
    tripped := fun h => (Bool.false_ne_true h).elim
    silent := fun _ _ => Breaker.Silent.zero _ _
    first := fun _ h => (Option.some_ne_none _ h.symm).elim
    ended := fun h => (Bool.false_ne_true h).elim
    reason := fun _ h => (Option.some_ne_none _ h.symm).elim }
  · show 0 + (launchWorld cfg runner shared sinks jobs requests checked).toCome.length =
      requests.length + (if (none : Option Trip).isSome = true then 1 else 0)
    simp [hcome]
  · show ((launchWorld cfg runner shared sinks jobs requests checked).toCome.map (·.1)).Nodup
    rw [hcome, List.map_map]
    simpa [Function.comp_def] using List.nodup_range'
  · intro x hx hf
    rw [show (launchWorld cfg runner shared sinks jobs requests checked).ledger.toCome = _ from hcome]
      at hx
    obtain ⟨y, hy, rfl⟩ := List.mem_map.1 hx
    have hmem : y.1 ∈ requests := by
      rw [(List.mem_zipIdx' hy).2]
      exact List.getElem_mem _
    simp only at hf
    simp only [List.any_eq_true, beq_iff_eq]
    exact ⟨y.1, hmem, hf⟩

/-- Two worlds of a run, the second no earlier than the first: the first keeps the accounts of
the run's start, and the second keeps them and grew from the first. -/
theorem keeps_run (cfg : Config) (runner : Runner ρ σ) (shared : ρ) (sinks : List Sink)
    (jobs : List Job) (requests : List (Nat × Request)) (checked : List Log.Event) {plan : Plan}
    {limit : Nat}
    (hm : Turns plan runner limit (launchWorld cfg runner shared sinks jobs requests checked) w)
    (hw : Turns plan runner limit w w') :
    w.ledger.Accounts plan.config.autoStop requests.length (requests.any (·.2 == .force)) ∧
      Keeps plan.config.autoStop requests.length (requests.any (·.2 == .force)) w w' := by
  have hb₀ := inv_launchWorld cfg runner shared sinks jobs requests checked
  have k₁ := keeps_turns hb₀ (accounts_launchWorld cfg runner shared sinks jobs requests checked _) hm
  exact ⟨k₁.accounts, keeps_turns (hb₀.turns hm) k₁.accounts hw⟩

end World

end Fanout

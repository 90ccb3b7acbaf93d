import Fanout.Json.Decode
import Fanout.Decimal.Text

/-!
# Why a run stops

A run ends when every job has finished, when the circuit breaker trips, or on a shutdown
request; a second request forces it. The breaker trips on a run of consecutive failures that
reaches its limit, or on a failure rate strictly above its limit.

The texts: `5 consecutive failures (limit: 5)`, and for a rate the percentage with one place and
the limit as a whole percentage, both rounded from the exact binary product, a tie going to the
even digit (`80.0% failure rate over 10 tasks exceeds limit (50%)`).
-/

namespace Fanout

/-- The breaker condition that tripped. -/
inductive Trip where
  /-- `count` consecutive unsuccessful outcomes reached `limit`. -/
  | consecutive (count limit : Nat)
  /-- The failure `rate` over `completed` outcomes exceeded `limit`. -/
  | rate (rate limit : Float) (completed : Nat)
  deriving Inhabited

namespace Trip

/-- The text of a trip. -/
def text : Trip → String
  | .consecutive count limit =>
    toString count ++ " consecutive failures (limit: " ++ toString limit ++ ")"
  | .rate r limit completed =>
    Decimal.fixed 1 (r * 100.0) ++ "% failure rate over " ++ toString completed ++
      " tasks exceeds limit (" ++ Decimal.fixed 0 (limit * 100.0) ++ "%)"

/-- The wire form, tagged by `kind`. -/
def toJson : Trip → Json
  | .consecutive count limit =>
    .obj [("kind", .str "consecutiveFailures"), ("count", Json.nat count), ("limit", Json.nat limit)]
  | .rate r limit completed =>
    .obj [("kind", .str "failureRate"), ("rate", Json.float r), ("limit", Json.float limit),
      ("completed", Json.nat completed)]

open Json.Decoder in
/-- Read the wire form. -/
def decoder : Json.Decoder Trip :=
  tagged "internally tagged enum BreakerTrip" "kind"
    [("consecutiveFailures", record "struct variant BreakerTrip::ConsecutiveFailures"
        [Field.of "count" u32 (fun c t => match t with
            | .consecutive _ l => .consecutive c l
            | other => other) true,
         Field.of "limit" u32 (fun l t => match t with
            | .consecutive c _ => .consecutive c l
            | other => other) true]
        (.consecutive 0 0)),
     ("failureRate", record "struct variant BreakerTrip::FailureRate"
        [Field.of "rate" f64 (fun r t => match t with
            | .rate _ l n => .rate r l n
            | other => other) true,
         Field.of "limit" f64 (fun l t => match t with
            | .rate r _ n => .rate r l n
            | other => other) true,
         Field.of "completed" u64 (fun n t => match t with
            | .rate r l _ => .rate r l n
            | other => other) true]
        (.rate 0.0 0.0 0))]

end Trip

/-- Why a run ended. -/
inductive StopReason where
  /-- Every job was dispatched and finished. -/
  | completed
  /-- The breaker tripped and the remaining work was cancelled. -/
  | autoStop (trip : Trip)
  /-- A shutdown was requested. -/
  | shutdown
  /-- A second request forced the shutdown. -/
  | forcedShutdown
  deriving Inhabited

namespace StopReason

/-- Every reason but `completed` ends a run early. -/
def isEarly : StopReason → Bool
  | .completed => false
  | _ => true

/-- The text of a reason. -/
def text : StopReason → String
  | .completed => "completed"
  | .autoStop t => "auto-stop: " ++ t.text
  | .shutdown => "shutdown requested"
  | .forcedShutdown => "forced shutdown"

/-- The wire form, tagged by `reason`. -/
def toJson : StopReason → Json
  | .completed => .obj [("reason", .str "completed")]
  | .autoStop t => .obj [("reason", .str "autoStop"), ("trip", t.toJson)]
  | .shutdown => .obj [("reason", .str "shutdown")]
  | .forcedShutdown => .obj [("reason", .str "forcedShutdown")]

open Json.Decoder in
/-- Read the wire form. -/
def decoder : Json.Decoder StopReason :=
  tagged "internally tagged enum StopReason" "reason"
    [("completed", unit .completed),
     ("autoStop", Json.Decoder.map .autoStop <| record "struct variant StopReason::AutoStop"
        [Field.of "trip" Trip.decoder (fun t _ => t) true] (.consecutive 0 0)),
     ("shutdown", unit .shutdown),
     ("forcedShutdown", unit .forcedShutdown)]

theorem isEarly_iff (r : StopReason) : r.isEarly = false ↔ r = .completed := by
  cases r <;> simp [isEarly]

end StopReason

end Fanout

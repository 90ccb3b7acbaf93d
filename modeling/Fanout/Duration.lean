import Fanout.Decimal.Binary
import Fanout.Decimal.Text

/-!
# Durations

A duration is a whole number of nanoseconds. It is written `<seconds>.<nine digits>`.

A duration is made from a float number of seconds by rounding the exact binary value to the
nearest nanosecond, a tie going to the even count. Negative values are refused, and so are NaN,
the infinities and values of `2^64` seconds or more. `-0.0` is zero.
-/

namespace Fanout

/-- A span of time in nanoseconds. -/
structure Duration where
  nanos : Nat
  deriving Inhabited, DecidableEq, Repr

namespace Duration

/-- Nanoseconds in a second. -/
def perSecond : Nat := 1000000000

/-- Nanoseconds in a millisecond. -/
def perMilli : Nat := 1000000

/-- The duration of `s` whole seconds. -/
def ofSeconds (s : Nat) : Duration := ⟨s * perSecond⟩

/-- The duration of `ms` whole milliseconds. -/
def ofMillis (ms : Nat) : Duration := ⟨ms * perMilli⟩

/-- The whole seconds of a duration. -/
def seconds (d : Duration) : Nat := d.nanos / perSecond

/-- The nanoseconds past the whole seconds. -/
def subsecNanos (d : Duration) : Nat := d.nanos % perSecond

/-- The number of whole milliseconds that covers the duration, rounding up. -/
def ceilMillis (d : Duration) : Nat := (d.nanos + perMilli - 1) / perMilli

/-- `<seconds>.<nine digits>`. -/
def text (d : Duration) : String :=
  let frac := Decimal.digitString d.subsecNanos
  Decimal.digitString d.seconds ++ "." ++ Decimal.padding (9 - frac.length) '0' ++ frac

/-- Whether a duration is zero. -/
def isZero (d : Duration) : Bool := d.nanos == 0

end Duration

/-- Why a float number of seconds makes no duration. -/
inductive SecondsFault where
  | negative
  | tooBigOrNaN
  deriving Inhabited, DecidableEq, Repr

/-- The text of the refusal. -/
def SecondsFault.message : SecondsFault → String
  | .negative => "cannot convert float seconds to Duration: value is negative"
  | .tooBigOrNaN => "cannot convert float seconds to Duration: value is either too big or NaN"

/-- The nearest duration to a decoded float number of seconds. -/
def Duration.ofBinary : Decimal.Binary → Except SecondsFault Duration
  | .nan => .error .tooBigOrNaN
  | .inf neg => .error (if neg then .negative else .tooBigOrNaN)
  | .finite neg m q =>
    if neg && m != 0 then .error .negative
    else if q ≥ 0 then
      if m * Decimal.pow2 q ≥ Nat.pow 2 64 then .error .tooBigOrNaN
      else .ok ⟨m * Decimal.pow2 q * Duration.perSecond⟩
    else
      if m ≥ Nat.pow 2 64 * Decimal.pow2 (-q) then .error .tooBigOrNaN
      else .ok ⟨Decimal.roundHalfEven (m * Duration.perSecond) (Decimal.pow2 (-q))⟩

/-- The nearest duration to `x` seconds, or why there is none. -/
def Duration.ofSecondsFloat (x : Float) : Except SecondsFault Duration :=
  Duration.ofBinary (Decimal.Binary.ofFloat x)

end Fanout

/-!
# Counts and stopping with a message

Some operations of the library cannot give an answer for every input: a count that leaves the
64-bit range, a status that is not final where a final one is required. They return an `Abort`
carrying the text of the failed check, so that a caller sees the same message every time and a
proof can say exactly when it arises.

Counts are natural numbers bounded by `wordMax`; `addCounts` is their checked sum and
`Count.toFloat` their nearest binary64 value.
-/

namespace Fanout

/-- A computation that stopped, with the text of the check that failed. -/
structure Abort where
  message : String
  deriving Inhabited, DecidableEq

/-- The largest count that a 64-bit unsigned word holds. -/
def wordMax : Nat := Nat.pow 2 64 - 1

/-- The largest count that a 32-bit unsigned word holds. -/
def halfWordMax : Nat := Nat.pow 2 32 - 1

/-- The message of a sum that leaves the word range. -/
def Abort.addOverflow : Abort := ⟨"attempt to add with overflow"⟩

/-- The sum of two counts, refused when it exceeds `wordMax`. -/
def addCounts (a b : Nat) : Except Abort Nat :=
  if a + b ≤ wordMax then .ok (a + b) else .error Abort.addOverflow

theorem addCounts_ok {a b : Nat} (h : a + b ≤ wordMax) : addCounts a b = .ok (a + b) := by
  simp [addCounts, h]

theorem addCounts_error {a b : Nat} (h : wordMax < a + b) :
    addCounts a b = .error Abort.addOverflow := by
  simp [addCounts, Nat.not_le.mpr h]

/-- The binary64 value nearest to a count below `2^64`, a tie going to the even mantissa. -/
def Count.toFloat (n : Nat) : Float := (UInt64.ofNat n).toFloat

end Fanout

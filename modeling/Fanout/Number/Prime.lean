/-!
# Primes and factorization

`factorize n` gives the prime factors of `n` in ascending order with repetition. Small factors
are divided out by trial division; what is left is split by Pollard's rho method until every
part passes the Miller–Rabin test. The test with the first thirteen primes as bases is exact
below `3.3 · 10^24`, which covers every number up to 2^64 and far beyond; above that it is the
usual probabilistic test.
-/

namespace Fanout.Number

/-- `base ^ exponent % modulus`, by repeated squaring. -/
def powMod (base exponent modulus : Nat) : Nat :=
  if exponent = 0 then 1 % modulus
  else
    let half := powMod (base * base % modulus) (exponent / 2) modulus
    if exponent % 2 = 1 then half * base % modulus else half
termination_by exponent
decreasing_by omega

/-- `n` as `d · 2^s` with `d` odd, for positive `n`: the pair `(d, s)`. -/
def oddPart (n : Nat) : Nat × Nat :=
  if n = 0 then (0, 0)
  else if n % 2 = 0 then
    let (d, s) := oddPart (n / 2)
    (d, s + 1)
  else (n, 0)
termination_by n
decreasing_by omega

/-- Whether the odd `n > 3` passes the Miller–Rabin test to base `a`. -/
def strongProbablePrime (n a : Nat) : Bool :=
  let (d, s) := oddPart (n - 1)
  let x := powMod a d n
  if x == 1 || x == n - 1 then true
  else
    ((List.range (s - 1)).foldl (fun (acc : Nat × Bool) _ =>
      let (y, found) := acc
      if found then acc else
        let y := y * y % n
        (y, y == n - 1)) (x, false)).2

/-- The bases of the test. -/
def witnessBases : List Nat := [2, 3, 5, 7, 11, 13, 17, 19, 23, 29, 31, 37, 41]

/-- Whether `n` is prime. -/
def isPrime (n : Nat) : Bool :=
  if n < 2 then false
  else if witnessBases.contains n then true
  else if witnessBases.any (n % · == 0) then false
  else witnessBases.all (strongProbablePrime n ·)

/-- A factor of the composite `n` by Pollard's rho method with the map `x ↦ x² + c`: none when
the walk closes on `n` itself or the step bound is reached. -/
def rhoFactor (n c : Nat) : Nat → Nat → Nat → Option Nat
  | 0, _, _ => none
  | fuel + 1, x, y =>
    let f (v : Nat) : Nat := (v * v + c) % n
    let x := f x
    let y := f (f y)
    let d := Nat.gcd (if x ≥ y then x - y else y - x) n
    if d == 1 then rhoFactor n c fuel x y
    else if d == n then none
    else some d

/-- Some factor of the composite `n` other than 1 and `n`, trying the maps `x² + c` for
`c = 1, 2, …`. -/
def splitComposite (n : Nat) : Option Nat :=
  (List.range 40).findSome? fun c => rhoFactor n (c + 1) 2000000 2 2

/-- The prime factors of `n` above `bound`, for `n` without smaller ones, by splitting. -/
def splitFactors : Nat → Nat → List Nat
  | 0, n => [n]
  | fuel + 1, n =>
    if n < 2 then []
    else if isPrime n then [n]
    else
      match splitComposite n with
      | some d => splitFactors fuel d ++ splitFactors fuel (n / d)
      | none => [n]

/-- Divide out the factors below 1000 by trial division: those factors, and what is left. -/
def smallFactors (n : Nat) : List Nat × Nat :=
  (List.range 998).foldl (fun (acc : List Nat × Nat) i =>
    let p := i + 2
    let rec strip : Nat → List Nat × Nat → List Nat × Nat
      | 0, a => a
      | k + 1, (fs, m) => if m % p == 0 && m > 1 then strip k (fs ++ [p], m / p) else (fs, m)
    strip (Nat.log2 n + 1) acc) ([], n)

/-- The prime factors of `n` in ascending order, each as often as it divides `n`. -/
def factorize (n : Nat) : List Nat :=
  let (small, rest) := smallFactors n
  small ++ (splitFactors (Nat.log2 rest + 1) rest).mergeSort (· ≤ ·)

end Fanout.Number

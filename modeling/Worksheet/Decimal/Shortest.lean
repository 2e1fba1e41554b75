/-
  The fewest decimal digits that identify a binary64 number. A decimal identifies the
  number when it lies in the interval of reals that round to it; among the decimals with
  the fewest digits the one nearest to the number is taken. All comparisons are exact, on
  natural numbers.
-/
namespace Worksheet.Decimal

/-! ## Binary and decimal forms -/

/-- A positive number `mantissa · 2^exponent`. The gap to the number below is half the gap
    to the number above when `narrow` is set. -/
structure Dyadic where
  mantissa : Nat
  exponent : Int
  narrow : Bool
deriving Repr, DecidableEq

/-- The magnitude of a finite number, from its bits. -/
def Dyadic.ofFloat (x : Float) : Dyadic :=
  let bits := x.toBits.toNat
  let field : Nat := bits / Nat.pow 2 52 % Nat.pow 2 11
  let fraction : Nat := bits % Nat.pow 2 52
  if field = 0 then ⟨fraction, -1074, false⟩
  else ⟨Nat.pow 2 52 + fraction, (field : Int) - 1075, fraction == 0 && decide (1 < field)⟩

/-- The decimal `digits · 10^exponent`. -/
structure Scaled where
  digits : Nat
  exponent : Int
deriving Repr, DecidableEq

/-- Which of two equally near decimals is taken. -/
inductive Tie where
  | up
  | even
deriving Repr, DecidableEq

/-- Compares `d · 10^k` with `m · 2^q`. -/
def compareScaled (d : Nat) (k : Int) (m : Nat) (q : Int) : Ordering :=
  compare (d * Nat.pow 10 k.toNat * Nat.pow 2 (-q).toNat)
    (m * Nat.pow 2 q.toNat * Nat.pow 10 (-k).toNat)

/-! ## The rounding interval -/

/-- Whether a decimal lies in the interval of reals that round to the number. The ends
    belong to it when the mantissa is even. -/
def Dyadic.identifiedBy (v : Dyadic) (s : Scaled) : Bool :=
  let below := compareScaled s.digits s.exponent (4 * v.mantissa - if v.narrow then 1 else 2)
    (v.exponent - 2)
  let above := compareScaled s.digits s.exponent (4 * v.mantissa + 2) (v.exponent - 2)
  if v.mantissa % 2 = 0 then below != .lt && above != .gt else below == .gt && above == .lt

/-! ## The search -/

/-- The least `k` with `v < 10^k`, found near the estimate from the binary logarithm. -/
def Dyadic.magnitude (v : Dyadic) : Int :=
  let estimate := ((v.mantissa.log2 : Int) + v.exponent) * 30103 / 100000
  let candidates := [estimate, estimate + 1, estimate + 2]
  (candidates.find? fun k => compareScaled 1 k v.mantissa v.exponent == .gt).getD (estimate + 3)

/-- The largest multiple of `10^k` that is at most `v`, divided by `10^k`. -/
def Dyadic.floorAt (v : Dyadic) (k : Int) : Nat :=
  v.mantissa * Nat.pow 2 v.exponent.toNat * Nat.pow 10 (-k).toNat
    / (Nat.pow 2 (-v.exponent).toNat * Nat.pow 10 k.toNat)

/-- The nearer of two neighbours `n · 10^k` and `(n + 1) · 10^k` of the number. -/
def Dyadic.nearer (v : Dyadic) (tie : Tie) (n : Nat) (k : Int) : Nat :=
  match compareScaled (2 * n + 1) k (2 * v.mantissa) v.exponent, tie with
  | .gt, _ => n
  | .lt, _ => n + 1
  | .eq, .up => n + 1
  | .eq, .even => if n % 2 = 0 then n else n + 1

/-- The best decimal on the grid of multiples of `10^k`, if one identifies the number. -/
def Dyadic.onGrid? (v : Dyadic) (tie : Tie) (k : Int) : Option Scaled :=
  let n := v.floorAt k
  match v.identifiedBy ⟨n, k⟩, v.identifiedBy ⟨n + 1, k⟩ with
  | true, true => some ⟨v.nearer tie n k, k⟩
  | true, false => some ⟨n, k⟩
  | false, true => some ⟨n + 1, k⟩
  | false, false => none

/-- The number itself as a decimal. -/
def Dyadic.exact (v : Dyadic) : Scaled :=
  if 0 ≤ v.exponent then ⟨v.mantissa * Nat.pow 2 v.exponent.toNat, 0⟩
  else ⟨v.mantissa * Nat.pow 5 (-v.exponent).toNat, v.exponent⟩

/-- Moves trailing zeros of the digits into the exponent. -/
def Scaled.stripZeros (s : Scaled) : Scaled :=
  if h : s.digits ≠ 0 ∧ s.digits % 10 = 0 then
    Scaled.stripZeros ⟨s.digits / 10, s.exponent + 1⟩
  else s
termination_by s.digits
decreasing_by omega

/-- The fewest digits that identify the number, tried from one digit to seventeen. -/
def Dyadic.shortest (v : Dyadic) (tie : Tie) : Scaled :=
  let top := v.magnitude
  let found := (List.range 17).findSome? fun i => v.onGrid? tie (top - (i + 1 : Nat))
  (found.getD v.exact).stripZeros

end Worksheet.Decimal

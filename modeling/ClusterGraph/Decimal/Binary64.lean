import ClusterGraph.Decimal.Basic

/-!
Sixty-four bit binary numbers, in exact arithmetic.

A fraction written in a document is rounded to the nearest binary number with 53 significant bits,
ties going to the even neighbour, and is shown by the fewest decimal digits that round back to it.
Both directions work on natural numbers, so that nothing depends on a machine's arithmetic.
-/

namespace ClusterGraph

/-- The non-negative number `mantissa · 2 ^ exponent`. The values that rounding yields have
`mantissa < 2 ^ 53` and `-1074 ≤ exponent ≤ 971`. -/
structure Binary64 where
  mantissa : Nat
  exponent : Int
  deriving DecidableEq, Repr, Inhabited

namespace Binary64

/-- The quotient rounded to the nearest natural number, a half going to the even neighbour. -/
def roundDiv (num den : Nat) : Nat :=
  let q := num / den
  let r := num % den
  if 2 * r < den then q
  else if den < 2 * r then q + 1
  else if q % 2 = 0 then q else q + 1

/-- `num / den` scaled by a power of a base, as a new pair of numerator and denominator. -/
def scale (base num den : Nat) (power : Int) : Nat × Nat :=
  if 0 ≤ power then (num * base.pow power.toNat, den) else (num, den * base.pow power.natAbs)

/-- The binary number nearest to `num / den`, or nothing when it is too large. -/
def nearest? (num den : Nat) : Option Binary64 :=
  if num = 0 then some ⟨0, -1074⟩
  else
    let guess : Int := (Nat.log2 num : Int) - Nat.log2 den - 52
    -- the guess is exact or one too large
    let (n, d) := scale 2 num den (-guess)
    let exponent := max (if n < d * Nat.pow 2 52 then guess - 1 else guess) (-1074)
    let (n, d) := scale 2 num den (-exponent)
    let m := roundDiv n d
    let (m, exponent) := if m = Nat.pow 2 53 then (Nat.pow 2 52, exponent + 1) else (m, exponent)
    if exponent ≤ 971 then some ⟨m, exponent⟩ else none

/-- The value as a quotient. -/
def ratio (b : Binary64) : Nat × Nat :=
  scale 2 b.mantissa 1 b.exponent

/-- The product of two values, rounded. -/
def mul? (a b : Binary64) : Option Binary64 :=
  let (n, d) := a.ratio
  let (n', d') := b.ratio
  nearest? (n * n') (d * d')

/-- The quotient of two values, rounded; the divisor is not zero. -/
def div? (a b : Binary64) : Option Binary64 :=
  let (n, d) := a.ratio
  let (n', d') := b.ratio
  nearest? (n * d') (d * n')

/-- The binary number nearest to `digits · 10 ^ exponent`. Exponents far outside the range of the
format are settled without computing the power. -/
def ofDecimal? (digits : Nat) (exponent : Int) : Option Binary64 :=
  let size : Int := (Nat.toDigits 10 digits).length
  if digits = 0 ∨ size + exponent < -400 then some ⟨0, -1074⟩
  else if 400 < size + exponent then none
  else
    let (n, d) := scale 10 digits 1 exponent
    nearest? n d

/-- The bounds of the real numbers that round to the value, times `4 · 2 ^ -exponent`, which puts the
value itself at `4 · mantissa`. Below a power of two the gap is half as wide. -/
def interval (b : Binary64) : Nat × Nat :=
  let below := if b.mantissa = Nat.pow 2 52 ∧ -1074 < b.exponent then 1 else 2
  (4 * b.mantissa - below, 4 * b.mantissa + 2)

/-- Whether `digits · 10 ^ power` rounds to the value: it lies between the bounds, the bounds
themselves counting when the mantissa is even. -/
def roundsBack (b : Binary64) (digits : Nat) (power : Int) : Bool :=
  let (lo, hi) := b.interval
  let (n, d) := scale 10 digits 1 power
  -- compare n / d with lo / 4 · 2 ^ exponent and hi / 4 · 2 ^ exponent
  let (unitN, unitD) := scale 2 1 4 b.exponent
  let value := n * unitD
  let low := lo * unitN * d
  let high := hi * unitN * d
  if b.mantissa % 2 = 0 then low ≤ value && value ≤ high else low < value && value < high

/-- The shortest decimal that rounds to the value, looked for among those of `count` digits and more,
at most `fuel` further ones. `top` is the power of ten just above the value. -/
def shortestFrom (b : Binary64) (top : Int) : (fuel count : Nat) → Nat × Int
  | 0, count =>
    let power := top - count
    let (n, d) := b.ratio
    let (n, d) := scale 10 n d (-power)
    (roundDiv n d, power)
  | fuel + 1, count =>
    let power := top - count
    let (n, d) := b.ratio
    let (n, d) := scale 10 n d (-power)
    let near := roundDiv n d
    let floor := n / d
    if b.roundsBack near power then (near, power)
    else if b.roundsBack floor power then (floor, power)
    else if b.roundsBack (floor + 1) power then (floor + 1, power)
    else shortestFrom b top fuel (count + 1)

/-- The power of ten just above the value: the least `p` with value below `10 ^ p`, found by at most
`fuel` steps down from a bound. -/
def topPower (n d : Nat) : (fuel : Nat) → Int → Int
  | 0, p => p
  | fuel + 1, p =>
    let (n', d') := scale 10 n d (-(p - 1))
    if n' < d' then topPower n d fuel (p - 1) else p

/-- The fewest decimal digits that round back to the value; of those the nearest to it. -/
def toDecimal (b : Binary64) (negative : Bool) : Decimal :=
  if b.mantissa = 0 then ⟨negative, 0, 0⟩
  else
    let (n, d) := b.ratio
    -- ten to the bits over three is above the value, and log10 2 is a little more than 3 / 10
    let bits : Int := (Nat.log2 b.mantissa : Int) + 1 + b.exponent
    let guess : Int := bits * 30103 / 100000 + 2
    let top := topPower n d 4 guess
    let (digits, power) := shortestFrom b top 16 1
    Decimal.normalize negative digits power

private def shown (digits : Nat) (exponent : Int) : Option Decimal :=
  (ofDecimal? digits exponent).map fun b => b.toDecimal false

example : shown 1 (-1) = some ⟨false, 1, -1⟩ ∧ shown 5 (-324) = some ⟨false, 5, -324⟩ ∧
    shown 17976931348623157 292 = some ⟨false, 17976931348623157, 292⟩ ∧
    shown 18 307 = none ∧ shown 9007199254740993 0 = some ⟨false, 9007199254740992, 0⟩ := by
  decide +kernel

end Binary64

end ClusterGraph

/-!
Decimal numbers and their text.

A number with a fraction or an exponent is kept as a sign, its digits and a power of ten. It is shown
in positional notation, always with a point, from 1e-5 to 1e16 and with an exponent outside.
-/

namespace ClusterGraph

/-- The number `± digits · 10 ^ exponent`; zero has no digits and exponent zero. -/
structure Decimal where
  negative : Bool
  digits : Nat
  exponent : Int
  deriving DecidableEq, Repr, Inhabited

namespace Decimal

/-- Removes trailing zeros from the digits, at most `fuel` of them. -/
def stripZeros : (fuel digits : Nat) → Int → Nat × Int
  | 0, digits, exponent => (digits, exponent)
  | fuel + 1, digits, exponent =>
    if digits ≠ 0 ∧ digits % 10 = 0 then stripZeros fuel (digits / 10) (exponent + 1)
    else (digits, exponent)

/-- The decimal with the given value whose digits do not end in zero. -/
def normalize (negative : Bool) (digits : Nat) (exponent : Int) : Decimal :=
  if digits = 0 then ⟨negative, 0, 0⟩
  else
    let (digits, exponent) := stripZeros (Nat.toDigits 10 digits).length digits exponent
    ⟨negative, digits, exponent⟩

private def signText (d : Decimal) : String := if d.negative then "-" else ""

/-- Digits with a point after the first `point` of them; zeros fill up on either side. -/
def placePoint (digits : List Char) (point : Int) : String :=
  if point ≤ 0 then
    "0." ++ String.ofList (List.replicate point.natAbs '0' ++ digits)
  else if digits.length ≤ point.toNat then
    String.ofList (digits ++ List.replicate (point.toNat - digits.length) '0') ++ ".0"
  else
    String.ofList (digits.take point.toNat) ++ "." ++ String.ofList (digits.drop point.toNat)

/-- Positional between 1e-5 and 1e16, else with an exponent after one digit. -/
def text (d : Decimal) : String :=
  if d.digits = 0 then d.signText ++ "0.0"
  else
    let digits := Nat.toDigits 10 d.digits
    let point : Int := digits.length + d.exponent
    if -5 < point ∧ point ≤ 16 then d.signText ++ placePoint digits point
    else
      let fraction := String.ofList (digits.drop 1)
      let mantissa := String.ofList (digits.take 1) ++ (if fraction.isEmpty then "" else "." ++ fraction)
      d.signText ++ mantissa ++ "e" ++ toString (point - 1)

example : text ⟨false, 1, 30⟩ = "1e30" ∧ text ⟨false, 125, -9⟩ = "1.25e-7" ∧
    text ⟨true, 0, 0⟩ = "-0.0" ∧ text ⟨true, 1, 3⟩ = "-1000.0" ∧ text ⟨false, 25, -4⟩ = "0.0025" := by
  decide +kernel

end Decimal

end ClusterGraph

/-
Module: LooseKeys.Decimal.Stepwise
Purpose: Floating-point numbers from digits and a power of ten, rounded at each step.
Main exports: Binary64.scaled, Binary64.ofDigits
-/
import LooseKeys.Decimal.Binary64

/-!
The digits, the power of ten and their product are rounded one after the other.  Digits up to
`2 ^ 53` and powers up to `10 ^ 22` are exact, so that the product is the nearest number then;
otherwise it may be a unit of the last place away from it.
-/

namespace LooseKeys.Decimal.Binary64

/-- The product of a number and a power of ten, or the quotient by the inverse of a power that is
less than one. -/
def scaled (value : Binary64) (power : Int) : Binary64 :=
  match value, ofDecimal false 1 power.natAbs with
  | .finite negative significand exponent, .finite _ scale scaleExponent =>
      if significand = 0 then value
      else if 0 ≤ power then
        let (numerator, denominator) :=
          scaleByTwo (significand * scale) (exponent + scaleExponent)
        ofFraction negative numerator denominator
      else
        let (numerator, denominator) := scaleByTwo significand (exponent - scaleExponent)
        ofFraction negative numerator (denominator * scale)
  | .finite negative significand _, _ => if significand = 0 then value else .infinite negative
  | value, _ => value

/-- The greatest power of ten that is a finite number. -/
def greatestPower : Int := 308

/-- `digits * 10 ^ power`; a power that is too small to be divided by at once is taken in two
steps. -/
def ofDigits (negative : Bool) (digits : Nat) (power : Int) : Binary64 :=
  let value := ofDecimal negative digits 0
  if -greatestPower ≤ power then value.scaled power
  else (value.scaled (-greatestPower)).scaled (max (power + greatestPower) (-greatestPower))

example : ofDigits false 15 (-1) = ofDecimal false 15 (-1)
    ∧ ofDigits true 5 (-324) = ofDecimal true 5 (-324)
    ∧ ofDigits false 1 309 = .infinite false
    ∧ ofDigits false 12345678901234567 4 ≠ ofDecimal false 12345678901234567 4 := by
  decide +kernel

end LooseKeys.Decimal.Binary64

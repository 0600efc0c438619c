/-
Module: LooseKeys.Decimal.Binary64
Purpose: Floating-point numbers of 64 bits as exact dyadic numbers, and the one nearest to a
  decimal number.
Main exports: Binary64, Binary64.ofDecimal
-/

/-!
A finite number is `significand * 2 ^ exponent`.  The reader of decimals works on exact
natural numbers: it finds the binary exponent of the quotient, then rounds the quotient once,
halves to the even neighbour.
-/

namespace LooseKeys.Decimal

/-- A floating-point number of 64 bits. -/
inductive Binary64 where
  | finite (negative : Bool) (significand : Nat) (exponent : Int)
  | infinite (negative : Bool)
  | notANumber
deriving DecidableEq, Repr, Inhabited

/-- The quotient rounded to the nearest whole number, halves to the even one. -/
def roundHalfEven (numerator denominator : Nat) : Nat :=
  let quotient := numerator / denominator
  let rest := 2 * (numerator % denominator)
  if rest < denominator then quotient
  else if denominator < rest then quotient + 1
  else quotient + quotient % 2

/-- `n * 2 ^ e` as a fraction. -/
def scaleByTwo (n : Nat) (e : Int) : Nat × Nat :=
  if 0 ≤ e then (n * Nat.pow 2 e.toNat, 1) else (n, Nat.pow 2 (-e).toNat)

/-- `n * 10 ^ e` as a fraction. -/
def scaleByTen (n : Nat) (e : Int) : Nat × Nat :=
  if 0 ≤ e then (n * Nat.pow 10 e.toNat, 1) else (n, Nat.pow 10 (-e).toNat)

/-- The greatest `e` with `2 ^ e ≤ numerator / denominator`, for positive numbers. -/
def floorLogTwo (numerator denominator : Nat) : Int :=
  let guess : Int := (numerator.log2 : Int) - (denominator.log2 : Int)
  let reached :=
    if 0 ≤ guess then denominator * Nat.pow 2 guess.toNat ≤ numerator
    else denominator ≤ numerator * Nat.pow 2 (-guess).toNat
  if reached then guess else guess - 1

namespace Binary64

/-- The exponent of the smallest positive number. -/
def leastExponent : Int := -1074

/-- The exponent of the greatest finite number. -/
def greatestExponent : Int := 971

/-- The number nearest to a positive fraction; infinite when the fraction is too great. -/
def ofFraction (negative : Bool) (numerator denominator : Nat) : Binary64 :=
  let exponent := max (floorLogTwo numerator denominator - 52) leastExponent
  let significand :=
    if 0 ≤ exponent then roundHalfEven numerator (denominator * Nat.pow 2 exponent.toNat)
    else roundHalfEven (numerator * Nat.pow 2 (-exponent).toNat) denominator
  let (significand, exponent) :=
    if significand = Nat.pow 2 53 then (Nat.pow 2 52, exponent + 1) else (significand, exponent)
  if greatestExponent < exponent then .infinite negative
  else .finite negative significand exponent

/-- The number nearest to `digits * 10 ^ exponent`.  A decimal so great or so small that its
order of magnitude alone decides is not expanded. -/
def ofDecimal (negative : Bool) (digits : Nat) (exponent : Int) : Binary64 :=
  let magnitude : Int := ((Nat.toDigits 10 digits).length : Int) + exponent
  if digits = 0 ∨ magnitude < -330 then .finite negative 0 leastExponent
  else if 310 < magnitude then .infinite negative
  else
    let (numerator, denominator) := scaleByTen digits exponent
    ofFraction negative numerator denominator

def isFinite : Binary64 → Bool
  | .finite .. => true
  | _ => false

example : ofDecimal false 15 (-1) = .finite false (3 * Nat.pow 2 51) (-52)
    ∧ ofDecimal false 1 309 = .infinite false
    ∧ ofDecimal true 5 (-324) = .finite true 1 (-1074) := by decide +kernel

end Binary64

end LooseKeys.Decimal

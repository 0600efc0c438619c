/-
Module: LooseKeys.Decimal.Shortest
Purpose: The fewest decimal digits that read back as a given floating-point number, and the
  two ways in which messages lay such digits out.
Main exports: Tie, shortest, FloatStyle, FloatStyle.render
-/
import LooseKeys.Decimal.Binary64

/-!
The real numbers that round to `significand * 2 ^ exponent` form an interval.  For one, two,
up to seventeen digits the two neighbours of the number on that decimal grid are tested; the
first grid with a neighbour inside the interval wins, and of two such neighbours the nearer.
When both are equally near, the layout says which one is taken.
-/

namespace LooseKeys.Decimal

/-- A positive fraction times a power of ten. -/
def timesTen (value : Nat × Nat) (power : Int) : Nat × Nat :=
  if 0 ≤ power then (value.1 * Nat.pow 10 power.toNat, value.2)
  else (value.1, value.2 * Nat.pow 10 (-power).toNat)

/-- The least `k` with `value < 10 ^ k`, searched upwards from a start below it. -/
def decimalWidth (value : Nat × Nat) : Nat → Int → Int
  | 0, k => k
  | fuel + 1, k =>
      let (one, scale) := timesTen (1, 1) k
      if value.1 * scale < one * value.2 then k else decimalWidth value fuel (k + 1)

/-- Whether `digits * 10 ^ power` rounds to the given significand and exponent. -/
def roundsTo (significand : Nat) (exponent : Int) (digits : Nat) (power : Int) : Bool :=
  -- Quarters of a unit of the last binary place: the gap below a power of two is half as wide.
  let below := if significand = Nat.pow 2 52 ∧ exponent ≠ Binary64.leastExponent then 1 else 2
  let low := scaleByTwo (4 * significand - below) (exponent - 2)
  let high := scaleByTwo (4 * significand + 2) (exponent - 2)
  let point := scaleByTen digits power
  let aboveLow := low.1 * point.2 < point.1 * low.2
  let onLow := low.1 * point.2 = point.1 * low.2
  let belowHigh := point.1 * high.2 < high.1 * point.2
  let onHigh := point.1 * high.2 = high.1 * point.2
  let even := significand % 2 = 0
  (aboveLow || (even && onLow)) && (belowHigh || (even && onHigh))

/-- Which of two equally near decimals is taken. -/
inductive Tie where
  /-- The one whose last digit is even. -/
  | toEven
  /-- The one of greater magnitude. -/
  | away
deriving DecidableEq, Repr

/-- Whether the lower of two neighbours is taken, from twice the rest above it and the unit of the
grid. -/
def Tie.takesLower (tie : Tie) (lower rest unit : Nat) : Bool :=
  rest < unit || (rest = unit && tie = .toEven && lower % 2 = 0)

/-- Tries grids of `used`, `used + 1`, … digits. -/
def shortestFrom (tie : Tie) (significand : Nat) (exponent width : Int) (value : Nat × Nat) :
    Nat → Nat → Nat × Int
  | 0, used => (0, width - used)
  | fuel + 1, used =>
      let power := width - used
      let scaled := timesTen value (-power)
      let lower := scaled.1 / scaled.2
      let rest := 2 * (scaled.1 % scaled.2)
      let fits := roundsTo significand exponent
      match lower ≠ 0 && fits lower power, fits (lower + 1) power with
      | true, true =>
          if tie.takesLower lower rest scaled.2 then (lower, power)
          else (lower + 1, power)
      | true, false => (lower, power)
      | false, true => (lower + 1, power)
      | false, false => shortestFrom tie significand exponent width value fuel (used + 1)

/-- Moves the zeros at the end of the digits into the power of ten. -/
def withoutTrailingZeros : Nat → Nat → Int → Nat × Int
  | 0, digits, power => (digits, power)
  | fuel + 1, digits, power =>
      if digits ≠ 0 ∧ digits % 10 = 0 then withoutTrailingZeros fuel (digits / 10) (power + 1)
      else (digits, power)

/-- Digits and a power of ten: the shortest decimal that rounds to the given number. -/
def shortest (tie : Tie) (significand : Nat) (exponent : Int) : Nat × Int :=
  if significand = 0 then (0, 0)
  else
    let value := scaleByTwo significand exponent
    let width := decimalWidth value 700 (-330)
    let (digits, power) := shortestFrom tie significand exponent width value 17 1
    withoutTrailingZeros 20 digits power

/-- How a floating-point number is laid out: which of two equally near decimals is taken, and
which positions of the decimal point are written without an exponent.  Without bounds every
number is. -/
structure FloatStyle where
  tie : Tie
  pointAbove : Option Int := none
  pointUpTo : Option Int := none

namespace FloatStyle

/-- Every finite number is written without an exponent. -/
def positional : FloatStyle := { tie := .away }

/-- An exponent stands where the point would lie more than sixteen places to the right of the
first digit or five or more to its left. -/
def compact : FloatStyle :=
  { tie := .toEven, pointAbove := some (-5), pointUpTo := some 16 }

/-- The digits with the point after `point` of them. -/
def placePoint (digits : List Char) (point : Int) : List Char :=
  if point ≤ 0 then '0' :: '.' :: (List.replicate (-point).toNat '0' ++ digits)
  else if digits.length ≤ point.toNat then
    digits ++ List.replicate (point.toNat - digits.length) '0' ++ ['.', '0']
  else digits.take point.toNat ++ '.' :: digits.drop point.toNat

/-- The digits with the point after the first of them, and an exponent with its sign. -/
def withExponent (digits : List Char) (point : Int) : List Char :=
  let mantissa :=
    match digits with
    | first :: second :: rest => first :: '.' :: second :: rest
    | short => short
  let exponent := (toString (point - 1)).toList
  mantissa ++ 'e' :: (if point < 1 then exponent else '+' :: exponent)

/-- The text of a number.  A finite one always shows a point or an exponent. -/
def render (style : FloatStyle) : Binary64 → String
  | .notANumber => "NaN"
  | .infinite negative => if negative then "-inf" else "inf"
  | .finite negative significand exponent =>
      let (digits, power) := shortest style.tie significand exponent
      let chars := Nat.toDigits 10 digits
      let point := if digits = 0 then 1 else (chars.length : Int) + power
      let inside :=
        style.pointAbove.all (fun bound => bound < point)
          && style.pointUpTo.all (fun bound => point ≤ bound)
      let text := if inside then placePoint chars point else withExponent chars point
      String.ofList (if negative then '-' :: text else text)

end FloatStyle

example : FloatStyle.compact.render (.ofDecimal false 15 (-1)) = "1.5"
    ∧ FloatStyle.compact.render (.ofDecimal false 1 16) = "1e+16"
    ∧ FloatStyle.positional.render (.ofDecimal false 1 16) = "10000000000000000.0"
    ∧ FloatStyle.compact.render (.ofDecimal true 5 (-324)) = "-5e-324"
    ∧ FloatStyle.compact.render (.ofDecimal false 112589990684262425 (-2)) = "1125899906842624.2"
    ∧ FloatStyle.positional.render (.ofDecimal false 112589990684262425 (-2))
      = "1125899906842624.3" := by decide +kernel

end LooseKeys.Decimal

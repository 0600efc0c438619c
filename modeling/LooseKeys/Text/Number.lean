/-
Module: LooseKeys.Text.Number
Purpose: Whole numbers in decimal, read from text within the range of a fixed width.
Main exports: digits?, leadingDigits, unsigned?, signed?, maxUnsigned32, maxUnsigned64,
  maxSigned64, inSigned64
-/

/-!
A number is an optional sign and at least one ASCII digit, with nothing around it.  Leading
zeros are allowed.  An unsigned number takes no minus sign, not even in front of zero.
-/

namespace LooseKeys.Text

/-- The greatest unsigned number of 32 bits. -/
def maxUnsigned32 : Nat := 0xFFFFFFFF

/-- The greatest unsigned number of 64 bits. -/
def maxUnsigned64 : Nat := 0xFFFFFFFFFFFFFFFF

/-- The greatest signed number of 64 bits. -/
def maxSigned64 : Nat := 0x7FFFFFFFFFFFFFFF

/-- The greatest magnitude of a negative number of 64 bits. -/
def maxNegative64 : Nat := 0x8000000000000000

/-- Whether a number is in the range of signed 64-bit numbers. -/
def inSigned64 (n : Int) : Bool := -(maxNegative64 : Int) ≤ n && n ≤ maxSigned64

/-- The value of a digit in a base of at most sixteen; letters may have either case. -/
def digitIn? (base : Nat) (c : Char) : Option Nat :=
  let value :=
    if '0' ≤ c ∧ c ≤ '9' then c.toNat - '0'.toNat
    else if 'a' ≤ c ∧ c ≤ 'f' then c.toNat - 'a'.toNat + 10
    else if 'A' ≤ c ∧ c ≤ 'F' then c.toNat - 'A'.toNat + 10
    else base
  if value < base then some value else none

/-- Continues a number `value` with further digits of a base. -/
def digitsFrom? (base value : Nat) : List Char → Option Nat
  | [] => some value
  | c :: rest =>
      match digitIn? base c with
      | some digit => digitsFrom? base (value * base + digit) rest
      | none => none

/-- The number that one or more digits of a base denote. -/
def digits? (base : Nat) : List Char → Option Nat
  | [] => none
  | chars => digitsFrom? base 0 chars

/-- Continues a number with digits for as long as it is at most `greatest`; gives the number and
the digits that are left. -/
def leadingDigits (greatest number : Nat) : List Char → Nat × List Char
  | [] => (number, [])
  | c :: rest =>
      match (digitIn? 10 c).map (number * 10 + ·) with
      | some next =>
          if next ≤ greatest then leadingDigits greatest next rest else (number, c :: rest)
      | none => (number, c :: rest)

/-- Reads an unsigned number of at most `greatest`. -/
def unsigned? (greatest : Nat) (chars : List Char) : Option Nat :=
  let magnitude :=
    match chars with
    | '+' :: rest => digits? 10 rest
    | chars => digits? 10 chars
  magnitude.filter (· ≤ greatest)

/-- Reads a signed number of 64 bits. -/
def signed? (chars : List Char) : Option Int :=
  let number : Option Int :=
    match chars with
    | '+' :: rest => (digits? 10 rest).map Int.ofNat
    | '-' :: rest => (digits? 10 rest).map (fun n => -(n : Int))
    | chars => (digits? 10 chars).map Int.ofNat
  number.filter inSigned64

/-- Reads exactly `true` or `false`. -/
def truth? (chars : List Char) : Option Bool :=
  if chars = "true".toList then some true
  else if chars = "false".toList then some false
  else none

example : unsigned? maxUnsigned64 "+007".toList = some 7
    ∧ unsigned? maxUnsigned64 "-0".toList = none
    ∧ unsigned? maxUnsigned64 "18446744073709551616".toList = none
    ∧ signed? "-9223372036854775808".toList = some (-9223372036854775808) := by decide +kernel

end LooseKeys.Text

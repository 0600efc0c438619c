/-
Module: LooseKeys.Yaml.Scalar
Purpose: What scalars stand for: null, truth values, integers, floating-point numbers, texts.
Main exports: isNull, truth?, unsigned?, signed?, float?, Scalar.mismatch
-/
import LooseKeys.Reading.Fault
import LooseKeys.Text.Number
import LooseKeys.Yaml.Event

/-!
Integers are decimal, or have one of the markers `0x`, `0o` and `0b`; a decimal with a leading
zero and more digits is a text.  A quoted or block scalar is a text unless a tag says otherwise.
-/

namespace LooseKeys.Yaml

open LooseKeys.Decimal LooseKeys.Reading

def isNull (chars : List Char) : Bool :=
  ["null", "Null", "NULL", "~"].any (·.toList = chars)

/-- Reads a truth value. -/
def truth? (chars : List Char) : Option Bool :=
  if ["true", "True", "TRUE"].any (·.toList = chars) then some true
  else if ["false", "False", "FALSE"].any (·.toList = chars) then some false
  else none

/-- Whether there are digits only, after a sign perhaps, but too many for the zero in front. -/
def isZeroPadded (chars : List Char) : Bool :=
  let bare :=
    match chars with
    | '-' :: rest => rest
    | '+' :: rest => rest
    | chars => chars
  1 < bare.length && bare.head? = some '0' && bare.all Char.isDigit

/-- The magnitude of an integer without a sign. -/
def magnitude? (chars : List Char) : Option Nat :=
  match chars with
  | '0' :: 'x' :: rest => Text.digits? 16 rest
  | '0' :: 'o' :: rest => Text.digits? 8 rest
  | '0' :: 'b' :: rest => Text.digits? 2 rest
  | chars => if isZeroPadded chars then none else Text.digits? 10 chars

/-- Reads an integer that is not marked as negative and is at most `greatest`. -/
def unsigned? (greatest : Nat) (chars : List Char) : Option Nat :=
  let bare :=
    match chars with
    | '+' :: rest => rest
    | chars => chars
  (magnitude? bare).filter (· ≤ greatest)

/-- Reads an integer that is marked as negative and has a magnitude of at most `greatest`. -/
def negative? (greatest : Nat) : List Char → Option Int
  | '-' :: rest => ((magnitude? rest).filter (· ≤ greatest)).map (fun n => -(n : Int))
  | _ => none

/-- Reads an integer of 64 bits with a sign. -/
def signed? (chars : List Char) : Option Int :=
  match unsigned? Text.maxSigned64 chars with
  | some n => some n
  | none => negative? Text.maxNegative64 chars

/-- Reads a decimal number without a sign: a digit at least, a point and an exponent perhaps. -/
def decimal? (negative : Bool) (chars : List Char) : Option Binary64 :=
  let whole := chars.takeWhile Char.isDigit
  let rest := chars.dropWhile Char.isDigit
  let (fraction, rest) :=
    match rest with
    | '.' :: rest => (rest.takeWhile Char.isDigit, rest.dropWhile Char.isDigit)
    | rest => ([], rest)
  let exponent : Option Int :=
    match rest with
    | [] => some 0
    | c :: rest =>
        if c = 'e' ∨ c = 'E' then
          match rest with
          | '-' :: digits => (Text.digits? 10 digits).map (fun n => -(n : Int))
          | '+' :: digits => (Text.digits? 10 digits).map Int.ofNat
          | digits => (Text.digits? 10 digits).map Int.ofNat
        else none
  match Text.digits? 10 (whole ++ fraction), exponent with
  | some digits, some exponent =>
      some (.ofDecimal negative digits (exponent - (fraction.length : Int)))
  | _, _ => none

/-- Reads a floating-point number; one that is too great to be finite is none. -/
def float? (chars : List Char) : Option Binary64 :=
  let infinite := [".inf", ".Inf", ".INF"].map String.toList
  if [".nan", ".NaN", ".NAN"].any (·.toList = chars) then some .notANumber
  else
    match chars with
    | '+' :: rest =>
        if infinite.contains rest then some (.infinite false)
        else (decimal? false rest).filter (·.isFinite)
    | '-' :: rest =>
        if infinite.contains rest then some (.infinite true)
        else (decimal? true rest).filter (·.isFinite)
    | chars =>
        if infinite.contains chars then some (.infinite false)
        else (decimal? false chars).filter (·.isFinite)

/-- The greatest unsigned number of 128 bits. -/
def maxUnsigned128 : Nat := 0xFFFFFFFFFFFFFFFFFFFFFFFFFFFFFFFF

/-- The greatest magnitude of a negative number of 128 bits. -/
def maxNegative128 : Nat := 0x80000000000000000000000000000000

/-- Reads an integer of any size up to 128 bits. -/
def integer? (chars : List Char) : Option Found :=
  match unsigned? Text.maxUnsigned64 chars, negative? Text.maxNegative64 chars with
  | some n, _ => some (.integer n)
  | none, some n => some (.integer n)
  | none, none =>
      match unsigned? maxUnsigned128 chars, negative? maxNegative128 chars with
      | some n, _ => some (.wideInteger n)
      | none, some n => some (.wideInteger n)
      | none, none => none

/-- What a plain scalar without a tag stands for. -/
def foundPlain (text : String) : Found :=
  let chars := text.toList
  if chars.isEmpty || isNull chars then .null
  else
    match truth? chars with
    | some value => .boolean value
    | none =>
        match integer? chars with
        | some found => found
        | none =>
            match if isZeroPadded chars then none else float? chars with
            | some value => .float value
            | none => .text text

namespace Scalar

/-- The tags of the core schema. -/
def booleanTag : Tag := .ofString "tag:yaml.org,2002:bool"

def integerTag : Tag := .ofString "tag:yaml.org,2002:int"

def floatTag : Tag := .ofString "tag:yaml.org,2002:float"

def nullTag : Tag := .ofString "tag:yaml.org,2002:null"

/-- The fault of a scalar where something else was wanted.  If its tag promises a type that its
text does not have, that is the fault. -/
def mismatch (scalar : Scalar) (wanted : String) : Fault :=
  let chars := scalar.text.toList
  let found (found : Option Found) (promised : String) : Fault :=
    match found with
    | some found => .wrongType found wanted
    | none => .wrongValue (.text scalar.text) promised
  let untagged : Fault :=
    .wrongType
      (if scalar.style = .plain then foundPlain scalar.text else .text scalar.text) wanted
  match scalar.tag with
  | none => untagged
  | some tag =>
      if tag = booleanTag then found ((truth? chars).map .boolean) "a boolean"
      else if tag = integerTag then found (integer? chars) "an integer"
      else if tag = floatTag then found ((float? chars).map .float) "a float"
      else if tag = nullTag then
        found (if isNull chars then some .null else none) "null"
      else if tag.isLocal then untagged
      else .wrongType (.text scalar.text) wanted

end Scalar

end LooseKeys.Yaml

/-
Module: LooseKeys.Reading.Fault
Purpose: Why a value of a document does not have the shape that was wanted, and how that is said.
Main exports: Found, Fault, Wording, Fault.text
-/
import LooseKeys.Decimal.Shortest
import LooseKeys.Text.Quoted

/-!
Two document formats are read, and their reports differ in two points only: the name of the
null value and the layout of floating-point numbers.  A `Wording` holds these two.
-/

namespace LooseKeys.Reading

open LooseKeys.Decimal

/-- What stands in a document where something else was wanted. -/
inductive Found where
  | null
  | boolean (value : Bool)
  | integer (value : Int)
  /-- An integer outside the range of 64 bits. -/
  | wideInteger (value : Int)
  | float (value : Binary64)
  | text (value : String)
  | sequence
  | map
deriving DecidableEq, Repr

/-- A reason to refuse a value. -/
inductive Fault where
  | wrongType (found : Found) (wanted : String)
  | wrongValue (found : Found) (wanted : String)
  | wrongLength (length : Nat) (wanted : String)
  | unknownField (name : String) (known : List String)
  | missingField (name : String)
  | duplicateField (name : String)
  | unknownVariant (name : String) (known : List String)
  /-- A reason that a reader of its own gives, such as that of a time. -/
  | stated (reason : String)
deriving DecidableEq, Repr

/-- The points in which the reports of two document formats differ. -/
structure Wording where
  nullName : String
  floats : FloatStyle

/-- A name between backquotes. -/
def backquoted (name : String) : String := "\x60" ++ name ++ "\x60"

/-- A choice of names: two are joined by `or`, more are listed. -/
def oneOf : List String → String
  | [] => "there are no fields"
  | [only] => backquoted only
  | [first, second] => backquoted first ++ " or " ++ backquoted second
  | names => "one of " ++ ", ".intercalate (names.map backquoted)

namespace Found

def describe (wording : Wording) : Found → String
  | .null => wording.nullName
  | .boolean value => "boolean " ++ backquoted (if value then "true" else "false")
  | .integer value => "integer " ++ backquoted (toString value)
  | .wideInteger value =>
      "integer " ++ backquoted (toString value) ++ if 0 ≤ value then " as u128" else " as i128"
  | .float value => "floating point " ++ backquoted (wording.floats.render value)
  | .text value => "string " ++ Text.quoted value
  | .sequence => "sequence"
  | .map => "map"

end Found

namespace Fault

/-- The report of a fault. -/
def text (wording : Wording) : Fault → String
  | .wrongType found wanted =>
      "invalid type: " ++ found.describe wording ++ ", expected " ++ wanted
  | .wrongValue found wanted =>
      "invalid value: " ++ found.describe wording ++ ", expected " ++ wanted
  | .wrongLength length wanted =>
      "invalid length " ++ toString length ++ ", expected " ++ wanted
  | .unknownField name [] => "unknown field " ++ backquoted name ++ ", there are no fields"
  | .unknownField name known =>
      "unknown field " ++ backquoted name ++ ", expected " ++ oneOf known
  | .missingField name => "missing field " ++ backquoted name
  | .duplicateField name => "duplicate field " ++ backquoted name
  | .unknownVariant name known =>
      "unknown variant " ++ backquoted name ++ ", expected " ++ oneOf known
  | .stated reason => reason

end Fault

end LooseKeys.Reading

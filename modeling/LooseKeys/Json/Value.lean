/-
Module: LooseKeys.Json.Value
Purpose: JSON values.
Main exports: Value
-/
import LooseKeys.Decimal.Binary64

namespace LooseKeys.Json

open LooseKeys.Decimal

/-- A JSON value.  A number without a point and an exponent that fits into 64 bits is an
integer, any other number a float.  The members of an object are in ascending order of their
names, and each name occurs once. -/
inductive Value where
  | null
  | boolean (value : Bool)
  | integer (value : Int)
  | float (value : Binary64)
  | text (value : String)
  | array (elements : List Value)
  | object (members : List (String × Value))
deriving Repr, Inhabited

namespace Value

def ofNat (n : Nat) : Value := .integer n

/-- A value, or null in place of none. -/
def ofOption {α : Type} (write : α → Value) : Option α → Value
  | some value => write value
  | none => .null

def ofList {α : Type} (write : α → Value) (values : List α) : Value :=
  .array (values.map write)

end Value

end LooseKeys.Json

/-
Module: LooseKeys.Json.Reading
Purpose: Typed reading of JSON values.
Main exports: Reader, readText, readUnsigned64, readSigned64, readBoolean, readVariant, readRecord
-/
import LooseKeys.Json.Value
import LooseKeys.Reading.Fault
import LooseKeys.Text.Number

/-!
A record is read from an object or, its fields in order, from an array.  The members of an
object are looked at in the order of their names, so that the first unsuitable one is reported;
a missing field is reported only after that, the first one in the order of the fields.
-/

namespace LooseKeys.Json

open LooseKeys.Reading LooseKeys.Decimal

/-- How JSON values are reported on. -/
def wording : Wording := { nullName := "null", floats := .compact }

/-- Reads a value of some type. -/
abbrev Reader (α : Type) := Value → Except Fault α

/-- A value as a report names it. -/
def Value.found : Value → Found
  | .null => .null
  | .boolean value => .boolean value
  | .integer value => .integer value
  | .float value => .float value
  | .text value => .text value
  | .array _ => .sequence
  | .object _ => .map

/-- Refuses a value. -/
def Value.refuse {α : Type} (value : Value) (wanted : String) : Except Fault α :=
  .error (.wrongType value.found wanted)

def readText : Reader String
  | .text value => .ok value
  | value => value.refuse "a string"

def readPath : Reader String
  | .text value => .ok value
  | value => value.refuse "path string"

def readBoolean : Reader Bool
  | .boolean value => .ok value
  | value => value.refuse "a boolean"

/-- An unsigned number of at most `greatest`. -/
def readUnsigned (greatest : Nat) (wanted : String) : Reader Nat
  | .integer value =>
      if 0 ≤ value ∧ value ≤ greatest then .ok value.toNat
      else .error (.wrongValue (.integer value) wanted)
  | value => value.refuse wanted

def readUnsigned64 : Reader Nat := readUnsigned Text.maxUnsigned64 "u64"

def readUnsigned32 : Reader Nat := readUnsigned Text.maxUnsigned32 "u32"

/-- A signed number of 64 bits. -/
def readSigned64 : Reader Int
  | .integer value =>
      if Text.inSigned64 value then .ok value else .error (.wrongValue (.integer value) "i64")
  | value => value.refuse "i64"

/-- A value that may be null. -/
def readOption {α : Type} (read : Reader α) : Reader (Option α)
  | .null => .ok none
  | value => (read value).map some

/-- The elements of an array in order. -/
def readElements {α : Type} (read : Reader α) : List Value → Except Fault (List α)
  | [] => .ok []
  | value :: rest => do
      let first ← read value
      let others ← readElements read rest
      return first :: others

def readList {α : Type} (read : Reader α) : Reader (List α)
  | .array elements => readElements read elements
  | value => value.refuse "a sequence"

/-- The members of an object, each with its name. -/
def readMembers {α : Type} (read : Reader α) :
    List (String × Value) → Except Fault (List (String × α))
  | [] => .ok []
  | (name, value) :: rest => do
      let first ← read value
      let others ← readMembers read rest
      return (name, first) :: others

def readMap {α : Type} (read : Reader α) : Reader (List (String × α))
  | .object members => readMembers read members
  | value => value.refuse "a map"

/-- A choice among names: a text, or an object with the name as its only member, then null. -/
def readVariant {α : Type} (known : List String) (ofName? : String → Option α) : Reader α
  | .text name => variant name
  | .object [(name, value)] => do
      let chosen ← variant name
      match value with
      | .null => return chosen
      | value => value.refuse "unit"
  | .object _ => .error (.wrongValue .map "map with a single key")
  | value => value.refuse "string or map"
where
  variant (name : String) : Except Fault α :=
    match ofName? name with
    | some chosen => .ok chosen
    | none => .error (.unknownVariant name known)

/-- A field of a record: its name, and whether a value suits it. -/
structure Field where
  name : String
  check : Value → Except Fault Unit

/-- The field whose values a reader reads. -/
def Field.of {α : Type} (name : String) (read : Reader α) : Field where
  name
  check value := (read value).map (fun _ => ())

/-- The shape of a record. -/
structure Shape where
  name : String
  fields : List Field
  /-- Members of other names are refused. -/
  strict : Bool := false
  /-- A short array leaves the fields at its end to their defaults. -/
  optional : Bool := false

/-- The values of the fields that are given. -/
abbrev Given := List (String × Value)

namespace Shape

/-- Checks the members of an object and keeps those that belong to fields. -/
def ofMembers (shape : Shape) : List (String × Value) → Except Fault Given
  | [] => .ok []
  | (name, value) :: rest =>
      match shape.fields.find? (·.name = name) with
      | none =>
          if shape.strict then .error (.unknownField name (shape.fields.map (·.name)))
          else shape.ofMembers rest
      | some field => do
          field.check value
          let others ← shape.ofMembers rest
          return (name, value) :: others

/-- Checks the elements of an array against the fields in order; `used` fields came before. -/
def ofElements (shape : Shape) (used : Nat) : List Field → List Value → Except Fault Given
  | [], [] => .ok []
  | [], rest => .error (.wrongLength (used + rest.length) "fewer elements in array")
  | _, [] =>
      if shape.optional then .ok []
      else
        .error (.wrongLength used
          ("struct " ++ shape.name ++ " with " ++ toString shape.fields.length ++ " elements"))
  | field :: fields, value :: rest => do
      field.check value
      let others ← shape.ofElements (used + 1) fields rest
      return (field.name, value) :: others

end Shape

/-- The given fields of a record, each with a suitable value. -/
def readRecord (shape : Shape) : Reader Given
  | .object members => shape.ofMembers members
  | .array elements => shape.ofElements 0 shape.fields elements
  | value => value.refuse ("struct " ++ shape.name)

namespace Given

/-- Reads a field, which must be given. -/
def required {α : Type} (given : Given) (name : String) (read : Reader α) : Except Fault α :=
  match given.lookup name with
  | some value => read value
  | none => .error (.missingField name)

/-- Reads a field, or takes its default. -/
def optional {α : Type} (given : Given) (name : String) (read : Reader α) (default : α) :
    Except Fault α :=
  match given.lookup name with
  | some value => read value
  | none => .ok default

end Given

end LooseKeys.Json

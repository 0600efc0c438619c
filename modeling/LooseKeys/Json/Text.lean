/-
Module: LooseKeys.Json.Text
Purpose: JSON values as text.
Main exports: Value.parse?, Value.render
-/
import LooseKeys.Decimal.Stepwise
import LooseKeys.Json.Reading
import LooseKeys.SortedMap

/-!
Reading follows the grammar of JSON.  Nesting is bounded by the length of the text, which
serves as fuel.  Of members with one name the last counts.
-/

namespace LooseKeys.Json

open LooseKeys.Decimal

def skipBlanks (chars : List Char) : List Char :=
  chars.dropWhile (fun c => c = ' ' || c = '\n' || c = '\r' || c = '\t')

/-- Four hexadecimal digits. -/
def parseUnit : List Char → Option (Nat × List Char)
  | a :: b :: c :: d :: rest => (Text.digits? 16 [a, b, c, d]).map (·, rest)
  | _ => none

/-- The character that an escape of a code unit begins; two units may make up one. -/
def parseEscapedUnit (chars : List Char) : Option (Char × List Char) := do
  let (high, rest) ← parseUnit chars
  if 0xD800 ≤ high ∧ high < 0xDC00 then
    match rest with
    | '\\' :: 'u' :: rest => do
        let (low, rest) ← parseUnit rest
        if 0xDC00 ≤ low ∧ low < 0xE000 then
          some (Char.ofNat (0x10000 + (high - 0xD800) * 0x400 + (low - 0xDC00)), rest)
        else none
    | _ => none
  else if 0xDC00 ≤ high ∧ high < 0xE000 then none
  else some (Char.ofNat high, rest)

/-- The characters of a text up to its closing quote, the latest first in `read`. -/
def parseChars : Nat → List Char → List Char → Option (String × List Char)
  | _, read, '"' :: rest => some (String.ofList read.reverse, rest)
  | fuel + 1, read, '\\' :: 'u' :: rest => do
      let (c, rest) ← parseEscapedUnit rest
      parseChars fuel (c :: read) rest
  | fuel + 1, read, '\\' :: c :: rest =>
      match c with
      | '"' => parseChars fuel ('"' :: read) rest
      | '\\' => parseChars fuel ('\\' :: read) rest
      | '/' => parseChars fuel ('/' :: read) rest
      | 'b' => parseChars fuel ('\x08' :: read) rest
      | 'f' => parseChars fuel ('\x0c' :: read) rest
      | 'n' => parseChars fuel ('\n' :: read) rest
      | 'r' => parseChars fuel ('\r' :: read) rest
      | 't' => parseChars fuel ('\t' :: read) rest
      | _ => none
  | fuel + 1, read, c :: rest => if c < ' ' then none else parseChars fuel (c :: read) rest
  | _, _, _ => none

/-- The exponent of a number, if there is one. -/
def parseExponent : List Char → Option (Option Int × List Char)
  | [] => some (none, [])
  | c :: rest =>
      if c = 'e' ∨ c = 'E' then
        let (negative, digits) :=
          match rest with
          | '-' :: rest => (true, rest)
          | '+' :: rest => (false, rest)
          | rest => (false, rest)
        (Text.digits? 10 (digits.takeWhile Char.isDigit)).map (fun n =>
          (some (if negative then -(n : Int) else n), digits.dropWhile Char.isDigit))
      else some (none, c :: rest)

/-- A number without its sign.  Of one that is no integer of 64 bits only the digits that fit
into 64 bits count. -/
def parseMagnitude (negative : Bool) (chars : List Char) : Option (Value × List Char) := do
  let whole := chars.takeWhile Char.isDigit
  let rest := chars.dropWhile Char.isDigit
  if whole.isEmpty then none
  if whole.length > 1 ∧ whole.head? = some '0' then none
  let (fraction, rest) ←
    match rest with
    | '.' :: rest =>
        let digits := rest.takeWhile Char.isDigit
        if digits.isEmpty then none else some (digits, rest.dropWhile Char.isDigit)
    | rest => some ([], rest)
  let (exponent, rest) ← parseExponent rest
  let digits ← Text.digits? 10 (whole ++ fraction)
  let signed : Int := if negative then -(digits : Int) else digits
  let fits :=
    if negative then 0 < digits ∧ Text.inSigned64 signed = true else digits ≤ Text.maxUnsigned64
  if fraction.isEmpty ∧ exponent.isNone ∧ fits then
    return (.integer signed, rest)
  else
    let (number, left) := Text.leadingDigits Text.maxUnsigned64 0 whole
    let (number, unread) := Text.leadingDigits Text.maxUnsigned64 number fraction
    let places := (fraction.length - unread.length : Nat)
    let power := exponent.getD 0 + (left.length : Int) - (places : Int)
    return (.float (.ofDigits negative number power), rest)

/-- Takes a fixed word off the front. -/
def parseWord (word : String) (value : Value) (chars : List Char) : Option (Value × List Char) :=
  if word.toList.isPrefixOf chars then some (value, chars.drop word.length) else none

mutual

/-- A value; `fuel` bounds the nesting and the number of elements. -/
def parseValue : Nat → List Char → Option (Value × List Char)
  | 0, _ => none
  | fuel + 1, chars =>
      match skipBlanks chars with
      | '"' :: rest => do
          let (text, rest) ← parseChars rest.length [] rest
          return (.text text, rest)
      | '[' :: rest =>
          match skipBlanks rest with
          | ']' :: rest => some (.array [], rest)
          | rest => do
              let (elements, rest) ← parseElements fuel [] rest
              return (.array elements, rest)
      | '\x7b' :: rest =>
          match skipBlanks rest with
          | '\x7d' :: rest => some (.object [], rest)
          | rest => do
              let (members, rest) ← parseMembers fuel [] rest
              return (.object (SortedMap.ofList members).entries, rest)
      | '-' :: rest => parseMagnitude true rest
      | 't' :: rest => parseWord "rue" (.boolean true) rest
      | 'f' :: rest => parseWord "alse" (.boolean false) rest
      | 'n' :: rest => parseWord "ull" .null rest
      | rest => parseMagnitude false rest

/-- The elements of an array up to its end, the latest first in `read`. -/
def parseElements : Nat → List Value → List Char → Option (List Value × List Char)
  | 0, _, _ => none
  | fuel + 1, read, chars => do
      let (value, rest) ← parseValue fuel chars
      match skipBlanks rest with
      | ',' :: rest => parseElements fuel (value :: read) rest
      | ']' :: rest => some ((value :: read).reverse, rest)
      | _ => none

/-- The members of an object up to its end, the latest first in `read`. -/
def parseMembers : Nat → List (String × Value) → List Char →
    Option (List (String × Value) × List Char)
  | 0, _, _ => none
  | fuel + 1, read, chars =>
      match skipBlanks chars with
      | '"' :: rest => do
          let (name, rest) ← parseChars rest.length [] rest
          match skipBlanks rest with
          | ':' :: rest => do
              let (value, rest) ← parseValue fuel rest
              match skipBlanks rest with
              | ',' :: rest => parseMembers fuel ((name, value) :: read) rest
              | '\x7d' :: rest => some (((name, value) :: read).reverse, rest)
              | _ => none
          | _ => none
      | _ => none

end

namespace Value

/-- The value that a whole text denotes. -/
def parse? (text : String) : Option Value :=
  let chars := text.toList
  match parseValue (chars.length + 1) chars with
  | some (value, rest) => if (skipBlanks rest).isEmpty then some value else none
  | none => none

/-- How a character is written inside a text. -/
def renderChar (c : Char) : List Char :=
  match c with
  | '"' => ['\\', '"']
  | '\\' => ['\\', '\\']
  | '\n' => ['\\', 'n']
  | '\r' => ['\\', 'r']
  | '\t' => ['\\', 't']
  | c =>
      if c < ' ' then
        let digits := Nat.toDigits 16 c.toNat
        '\\' :: 'u' :: (List.replicate (4 - digits.length) '0' ++ digits)
      else [c]

def renderText (text : String) : String :=
  String.ofList ('"' :: (text.toList.flatMap renderChar ++ ['"']))

mutual

/-- The value as text, without blanks. -/
def render : Value → String
  | .null => "null"
  | .boolean value => if value then "true" else "false"
  | .integer value => toString value
  | .float value => FloatStyle.compact.render value
  | .text value => renderText value
  | .array elements => "[" ++ ",".intercalate (renderElements elements) ++ "]"
  | .object members => "\x7b" ++ ",".intercalate (renderMembers members) ++ "\x7d"

def renderElements : List Value → List String
  | [] => []
  | value :: rest => value.render :: renderElements rest

def renderMembers : List (String × Value) → List String
  | [] => []
  | (name, value) :: rest =>
      (renderText name ++ ":" ++ value.render) :: renderMembers rest

end

end Value

end LooseKeys.Json

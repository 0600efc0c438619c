/-
Module: LooseKeys.Timestamp.Written
Purpose: Points in time as text: the internet profile of ISO 8601, read leniently and written
  in universal time.
Main exports: Timestamp.parse, Timestamp.render, TimeFault
-/
import LooseKeys.Text.Blank
import LooseKeys.Text.Number
import LooseKeys.Timestamp

/-!
Read are a year, a month and a day joined by `-`, a `T` or a space, an hour, a minute and a
second joined by `:`, a fraction if there is one, and an offset from universal time.  Blanks may
stand before any number, before a joint, and around the offset's parts.  A year without a sign
has at most four digits; with a sign it may have more.  The second 60 is a leap second.

Each number is checked against its own range as it is read; that the day exists in its month
is checked at the end.
-/

namespace LooseKeys

/-- Why a text is no point in time. -/
inductive TimeFault where
  | premature
  | invalid
  | outOfRange
  | trailing
  | impossible
deriving DecidableEq, Repr

def TimeFault.text : TimeFault → String
  | .premature => "premature end of input"
  | .invalid => "input contains invalid characters"
  | .outOfRange => "input is out of range"
  | .trailing => "trailing input"
  | .impossible => "no possible date and time matching input"

namespace Timestamp

open Text

/-- A part of a point in time and the characters after it. -/
abbrev TimeReader (α : Type) := List Char → Except TimeFault (α × List Char)

/-- One digit or more, but at most `width` of them if a width is given. -/
def readNumber (width : Option Nat) : TimeReader Nat
  | [] => .error .premature
  | chars =>
      let digits :=
        match width with
        | some width => (chars.take width).takeWhile Char.isDigit
        | none => chars.takeWhile Char.isDigit
      match digits? 10 digits with
      | none => .error .invalid
      | some value =>
          if value ≤ maxSigned64 then .ok (value, chars.drop digits.length) else .error .outOfRange

/-- A number of at most two digits within a range, blanks allowed in front. -/
def readField (least greatest : Nat) : TimeReader Nat := fun chars => do
  let (value, rest) ← readNumber (some 2) (trimStart chars)
  if least ≤ value ∧ value ≤ greatest then return (value, rest) else throw .outOfRange

/-- A year, blanks allowed in front. -/
def readYear : TimeReader Int := fun chars => do
  let (year, rest) ←
    match trimStart chars with
    | '-' :: rest => do
        let (value, rest) ← readNumber none rest
        pure (-(value : Int), rest)
    | '+' :: rest => do
        let (value, rest) ← readNumber none rest
        pure ((value : Int), rest)
    | chars => do
        let (value, rest) ← readNumber (some 4) chars
        pure ((value : Int), rest)
  if -0x80000000 ≤ year ∧ year ≤ 0x7FFFFFFF then return (year, rest)
  else throw .outOfRange

/-- A joint between two numbers, blanks allowed in front. -/
def readJoint (joint : Char) : TimeReader Unit := fun chars =>
  match trimStart chars with
  | [] => .error .premature
  | c :: rest => if c = joint then .ok ((), rest) else .error .invalid

/-- A fraction of a second in nanoseconds; digits after the ninth are dropped. -/
def readFraction : TimeReader Nat
  | '.' :: rest => do
      let (value, after) ← readNumber (some 9) rest
      let used := rest.length - after.length
      return (value * Nat.pow 10 (9 - used), after.dropWhile Char.isDigit)
  | chars => .ok (0, chars)

/-- Two digits; the text is too short for them when less than two bytes are left. -/
def readTwoDigits : TimeReader Nat
  | first :: second :: rest =>
      match digits? 10 [first, second] with
      | some value => .ok (value, rest)
      | none => .error .invalid
  | [only] => .error (if only.toNat < 0x80 then .premature else .invalid)
  | [] => .error .premature

/-- An offset from universal time in seconds: `UTC`, `Z`, or a sign, hours and minutes. -/
def readOffset : TimeReader Int := fun chars =>
  let utc := (chars.take 3).map Char.toUpper = ['U', 'T', 'C']
  if utc then .ok (0, chars.drop 3)
  else
    let magnitude (rest : List Char) : Except TimeFault (Int × List Char) := do
      let (hours, rest) ← readTwoDigits rest
      let (minutes, rest) ← readTwoDigits (rest.dropWhile (fun c => c = ':' || isBlank c))
      if 59 < minutes then throw .outOfRange
      return (((hours * 60 + minutes) * 60 : Nat), rest)
    match chars with
    | [] => .error .premature
    | c :: rest =>
        if c = 'Z' ∨ c = 'z' then .ok (0, rest)
        else if c = '+' then magnitude rest
        else if c = '-' ∨ c = '\u2212' then do
          let (seconds, rest) ← magnitude rest
          return (-seconds, rest)
        else .error .invalid

/-- The least and the greatest year for which there are dates. -/
def yearInRange (year : Int) : Bool := -262143 ≤ year && year ≤ 262142

/-- Reads a point in time. -/
def parse (text : String) : Except TimeFault Timestamp := do
  let (year, rest) ← readYear text.toList
  let (_, rest) ← readJoint '-' rest
  let (month, rest) ← readField 1 12 rest
  let (_, rest) ← readJoint '-' rest
  let (day, rest) ← readField 1 31 rest
  let rest ←
    match rest with
    | [] => throw .premature
    | c :: rest => if c = 't' ∨ c = 'T' ∨ c = ' ' then pure rest else throw .invalid
  let (hour, rest) ← readField 0 23 rest
  let (_, rest) ← readJoint ':' rest
  let (minute, rest) ← readField 0 59 rest
  let (_, rest) ← readJoint ':' rest
  let (second, rest) ← readField 0 60 rest
  let (fraction, rest) ← readFraction rest
  let (offset, rest) ← readOffset (trimStart rest)
  if ¬ (trimStart rest).isEmpty then throw .trailing
  if ¬ yearInRange year ∨ daysInMonth year month < day then throw .outOfRange
  if 86400 ≤ offset.natAbs then throw .outOfRange
  let leap := second = 60
  let secondOfDay := (hour * 60 + minute) * 60 + (if leap then 59 else second)
  let seconds := daysFromCivil { year, month, day } * 86400 + secondOfDay - offset
  if ¬ yearInRange (civilFromDays (seconds.fdiv 86400)).year then throw .impossible
  return { seconds, nanos := if leap then fraction + 1000000000 else fraction }

/-- A number in at least `width` digits. -/
def padded (width n : Nat) : String :=
  let digits := Nat.toDigits 10 n
  String.ofList (List.replicate (width - digits.length) '0' ++ digits)

/-- A year in four digits, or with a sign and at least four digits where that is not enough. -/
def renderYear (year : Int) : String :=
  if 0 ≤ year ∧ year ≤ 9999 then padded 4 year.natAbs
  else (if year < 0 then "-" else "+") ++ padded 4 year.natAbs

/-- A fraction of a second in no, three, six or nine digits, as few as keep it. -/
def renderFraction (nanos : Nat) : String :=
  if nanos = 0 then ""
  else if nanos % 1000000 = 0 then "." ++ padded 3 (nanos / 1000000)
  else if nanos % 1000 = 0 then "." ++ padded 6 (nanos / 1000)
  else "." ++ padded 9 nanos

/-- Writes a point in time in universal time. -/
def render (timestamp : Timestamp) : String :=
  let days := timestamp.seconds.fdiv 86400
  let secondOfDay := (timestamp.seconds - days * 86400).toNat
  let date := civilFromDays days
  let leap := 1000000000 ≤ timestamp.nanos
  let second := secondOfDay % 60 + (if leap then 1 else 0)
  let nanos := if leap then timestamp.nanos - 1000000000 else timestamp.nanos
  renderYear date.year ++ "-" ++ padded 2 date.month ++ "-" ++ padded 2 date.day ++ "T"
    ++ padded 2 (secondOfDay / 3600) ++ ":" ++ padded 2 (secondOfDay / 60 % 60) ++ ":"
    ++ padded 2 second ++ renderFraction nanos ++ "Z"

example : (parse "2000-02-29T23:59:60.25+23:59").toOption.map render
      = some "2000-02-29T00:00:60.250Z"
    ∧ (parse "2023-02-29T00:00:00Z").toOption = none
    ∧ (parse "+12345-1-1 0:0:0.1234567899 utc").toOption.map render
      = some "+12345-01-01T00:00:00.123456789Z" := by decide +kernel

end Timestamp

end LooseKeys

/-
Module: LooseKeys.Yaml.Token.Property
Purpose: Anchors, aliases, tags and directives.
Main exports: scanName, scanTag, scanDirective
-/
import LooseKeys.Text.Number
import LooseKeys.Yaml.Cursor
import LooseKeys.Yaml.Token

namespace LooseKeys.Yaml

/-- The name of an anchor or an alias, its indicator next.  After it comes a blank, or an
indicator that cannot be taken for a part of the name. -/
def scanName (cursor : Cursor) : Option (String × Cursor) :=
  let (name, cursor) := (cursor.skip 1).takeWhile isWordChar
  let ended :=
    match cursor.head? with
    | none => true
    | some c =>
        isBlankOrBreak c || ['?', ':', ',', ']', '\x7d', '%', '@', '\x60'].contains c
  if name.isEmpty || !ended then none else some (String.ofList name, cursor)

/-! ## Tags -/

/-- A handle: an exclamation mark, then a name and a second mark unless it is one mark alone or
only the start of a tag. -/
def scanHandle (inDirective : Bool) (cursor : Cursor) : Option (List Char × Cursor) :=
  if cursor.head? ≠ some '!' then none
  else
    let (name, cursor) := (cursor.skip 1).takeWhile isWordChar
    if cursor.head? = some '!' then some ('!' :: (name ++ ['!']), cursor.skip 1)
    else if inDirective && !name.isEmpty then none
    else some ('!' :: name, cursor)

/-- A character of a tag, escapes apart; commas and brackets only where a delimiter ends it. -/
def isTagChar (delimited : Bool) (c : Char) : Bool :=
  isWordChar c
    || [';', '/', '?', ':', '@', '&', '=', '+', '$', '.', '!', '~', '*', '\'', '(', ')'].contains c
    || (delimited && [',', '[', ']'].contains c)

/-- The number of bytes that the first one announces. -/
def announcedLength? (byte : Nat) : Option Nat :=
  if byte < 0x80 then some 1
  else if byte / 0x20 = 6 then some 2
  else if byte / 0x10 = 14 then some 3
  else if byte / 0x8 = 30 then some 4
  else none

/-- One byte written as a percent sign and two digits. -/
def escapedByte? : List Char → Option Nat
  | '%' :: high :: low :: _ => Text.digits? 16 [high, low]
  | _ => none

/-- The bytes that follow a first one, put in front of those already read. -/
def furtherBytes? (read : List UInt8) : Nat → Cursor → Option (List UInt8 × Cursor)
  | 0, cursor => some (read, cursor)
  | count + 1, cursor =>
      match escapedByte? cursor.rest with
      | none => none
      | some byte =>
          if byte / 0x40 = 2 then furtherBytes? (.ofNat byte :: read) count (cursor.skip 3)
          else none

/-- Escapes of as many bytes as the first one announces, put in front of those already read.
They need not be the encoding of a character. -/
def scanTagEscape (read : List UInt8) (cursor : Cursor) : Option (List UInt8 × Cursor) := do
  let byte ← escapedByte? cursor.rest
  let length ← announcedLength? byte
  furtherBytes? (.ofNat byte :: read) (length - 1) (cursor.skip 3)

/-- The bytes of a tag, the latest first. -/
def tagBytes (delimited : Bool) : Nat → List UInt8 → Cursor → Option (List UInt8 × Cursor)
  | 0, read, cursor => some (read, cursor)
  | fuel + 1, read, cursor =>
      match cursor.head? with
      | none => some (read, cursor)
      | some c =>
          if c = '%' then
            match scanTagEscape read cursor with
            | none => none
            | some (read, cursor) => tagBytes delimited fuel read cursor
          else if isTagChar delimited c then
            tagBytes delimited fuel (.ofNat c.toNat :: read) (cursor.skip 1)
          else some (read, cursor)

/-- The rest of a tag after characters that are already read. -/
def scanTagBytes (delimited : Bool) (start : List Char) (cursor : Cursor) :
    Option (List UInt8 × Cursor) :=
  let start := start.map (fun c => .ofNat c.toNat)
  (tagBytes delimited cursor.bound start.reverse cursor).map (fun (read, cursor) =>
    (read.reverse, cursor))

/-- A tag of at least one byte. -/
def scanTagPart (delimited : Bool) (cursor : Cursor) : Option (Tag × Cursor) := do
  let (bytes, cursor) ← scanTagBytes delimited [] cursor
  if bytes.isEmpty then none else some (.ofBytes bytes, cursor)

/-- A tag: verbatim between angle brackets, or a handle and a suffix. -/
def scanTag (inFlow : Bool) (cursor : Cursor) : Option (Token × Cursor) := do
  let (token, cursor) ←
    if cursor.rest.drop 1 |>.head? |> (· = some '<') then do
      let (tag, cursor) ← scanTagPart true (cursor.skip 2)
      if cursor.head? ≠ some '>' then none else some (Token.tag "" tag, cursor.skip 1)
    else do
      let (handle, cursor) ← scanHandle false cursor
      if 1 < handle.length && handle.getLast? = some '!' then do
        let (suffix, cursor) ← scanTagPart false cursor
        some (Token.tag (String.ofList handle) suffix, cursor)
      else do
        let (bytes, cursor) ← scanTagBytes false (handle.drop 1) cursor
        let suffix := Tag.ofBytes bytes
        if suffix.isEmpty then some (Token.tag "" (.ofString "!"), cursor)
        else some (Token.tag "!" suffix, cursor)
  let ended := startsBlank cursor.rest || (inFlow && cursor.head? = some ',')
  if ended then some (token, cursor) else none

/-! ## Directives -/

/-- A number of a version, of at most nine digits. -/
def scanVersionNumber (cursor : Cursor) : Option (Nat × Cursor) := do
  let (digits, cursor) := cursor.takeWhile Char.isDigit
  if 9 < digits.length then none
  else
    let number ← Text.digits? 10 digits
    return (number, cursor)

/-- A directive, its percent sign next; only versions and tag handles can be declared. -/
def scanDirective (cursor : Cursor) : Option (Token × Cursor) := do
  let (name, cursor) := (cursor.skip 1).takeWhile isWordChar
  if name.isEmpty || !startsBlank cursor.rest then none
  else
    let (token, cursor) ←
      if name = "YAML".toList then do
        let (major, cursor) ← scanVersionNumber (cursor.skipWhile isBlank)
        if cursor.head? ≠ some '.' then none
        else
          let (minor, cursor) ← scanVersionNumber (cursor.skip 1)
          some (Token.version major minor, cursor)
      else if name = "TAG".toList then do
        let (handle, cursor) ← scanHandle true (cursor.skipWhile isBlank)
        if !(cursor.head?.any isBlank) then none
        else
          let (start, cursor) ← scanTagPart true (cursor.skipWhile isBlank)
          if !startsBlank cursor.rest then none
          else some (Token.tagDirective (String.ofList handle) start, cursor)
      else none
    let cursor ← cursor.finishLine?
    return (token, cursor)

end LooseKeys.Yaml

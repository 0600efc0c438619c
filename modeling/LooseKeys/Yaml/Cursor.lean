/-
Module: LooseKeys.Yaml.Cursor
Purpose: A reading position in the text of a YAML stream, and the classes of characters.
Main exports: Mark, Cursor, isBreak, isBlank, isWordChar, isAllowed
-/

/-!
A carriage return followed by a line feed is one line break.  A break is read as a line feed,
except that the line and paragraph separators stand for themselves.
-/

namespace LooseKeys.Yaml

/-- A position: bytes from the start of the stream, lines, and characters in the line. -/
structure Mark where
  index : Nat := 0
  line : Nat := 0
  column : Nat := 0
deriving DecidableEq, Repr, Inhabited

/-- The characters still to be read, and the position of the first of them. -/
structure Cursor where
  rest : List Char
  mark : Mark := {}
  /-- The number of characters there were at first, which bounds the loops over them. -/
  bound : Nat := rest.length
deriving Repr, Inhabited

def isBreak (c : Char) : Bool :=
  c = '\n' || c = '\r' || c = '\u0085' || c = '\u2028' || c = '\u2029'

def isBlank (c : Char) : Bool := c = ' ' || c = '\t'

def isBlankOrBreak (c : Char) : Bool := isBlank c || isBreak c

/-- A letter, a digit, a hyphen or an underscore, of ASCII only. -/
def isWordChar (c : Char) : Bool :=
  c.isAlphanum || c = '-' || c = '_'

/-- Whether a character may stand in a stream at all. -/
def isAllowed (c : Char) : Bool :=
  let n := c.toNat
  n = 0x9 || n = 0xA || n = 0xD || (0x20 ≤ n && n ≤ 0x7E) || n = 0x85
    || (0xA0 ≤ n && n ≤ 0xD7FF) || (0xE000 ≤ n && n ≤ 0xFFFD) || 0x10000 ≤ n

/-- Whether a blank, a break or the end of the stream comes next. -/
def startsBlank : List Char → Bool
  | [] => true
  | c :: _ => isBlankOrBreak c

/-- Whether a break or the end of the stream comes next. -/
def startsBreak : List Char → Bool
  | [] => true
  | c :: _ => isBreak c

namespace Cursor

/-- The number of bytes that encode characters. -/
def encodedSize (chars : List Char) : Nat :=
  chars.foldl (fun size c => size + c.utf8Size) 0

def head? (cursor : Cursor) : Option Char := cursor.rest.head?

/-- Moves over characters that are no breaks. -/
def skip (cursor : Cursor) (count : Nat) : Cursor :=
  { cursor with
    rest := cursor.rest.drop count
    mark := { cursor.mark with
      index := cursor.mark.index + encodedSize (cursor.rest.take count)
      column := cursor.mark.column + count } }

/-- The characters that pass a test, up to the first that does not; no break may pass. -/
def takeWhile (cursor : Cursor) (test : Char → Bool) : List Char × Cursor :=
  let taken := cursor.rest.takeWhile test
  (taken, cursor.skip taken.length)

def skipWhile (cursor : Cursor) (test : Char → Bool) : Cursor := (cursor.takeWhile test).2

/-- The position at the start of the line after a break of `length` characters. -/
def nextLine (cursor : Cursor) (length : Nat) : Cursor :=
  { cursor with
    rest := cursor.rest.drop length
    mark :=
      { index := cursor.mark.index + encodedSize (cursor.rest.take length)
        line := cursor.mark.line + 1
        column := 0 } }

/-- Moves over a line break, if one comes next, and tells how it is read. -/
def takeBreak? (cursor : Cursor) : Option (Char × Cursor) :=
  match cursor.rest with
  | '\r' :: '\n' :: _ => some ('\n', cursor.nextLine 2)
  | c :: _ =>
      if c = '\u2028' || c = '\u2029' then some (c, cursor.nextLine 1)
      else if isBreak c then some ('\n', cursor.nextLine 1)
      else none
  | [] => none

/-- Moves over a line break, if one comes next. -/
def skipBreak (cursor : Cursor) : Cursor :=
  match cursor.takeBreak? with
  | some (_, after) => after
  | none => cursor

/-- Moves over a byte order mark, which may begin a line. -/
def skipByteOrderMark (cursor : Cursor) : Cursor :=
  if cursor.mark.column = 0 && cursor.head? = some '\ufeff' then cursor.skip 1 else cursor

/-- Whether a marker of three characters, then a blank, begins the line. -/
def atMarker (cursor : Cursor) (marker : List Char) : Bool :=
  cursor.mark.column = 0 && cursor.rest.take 3 = marker && startsBlank (cursor.rest.drop 3)

/-- Whether a marker between documents begins the line. -/
def atDocumentMarker (cursor : Cursor) : Bool :=
  cursor.atMarker ['-', '-', '-'] || cursor.atMarker ['.', '.', '.']

/-- Moves over blanks and a comment to the end of the line and over its break; anything else
there is refused. -/
def finishLine? (cursor : Cursor) : Option Cursor :=
  let cursor := cursor.skipWhile isBlank
  let cursor :=
    if cursor.head? = some '#' then cursor.skipWhile (fun c => !isBreak c) else cursor
  if startsBreak cursor.rest then some cursor.skipBreak else none

end Cursor

end LooseKeys.Yaml

/-
Module: LooseKeys.Yaml.Token.Folded
Purpose: Plain and quoted scalars, whose lines are folded.
Main exports: scanPlain, scanSingleQuoted, scanDoubleQuoted
-/
import LooseKeys.Text.Number
import LooseKeys.Yaml.Cursor

/-!
Within such a scalar a single line break is read as a space, and further breaks after it stand
for themselves.  Blanks around breaks are dropped.
-/

namespace LooseKeys.Yaml

/-- What has been read of a scalar: its text, the latest character first, and the blanks and
breaks after it, of which it is not yet known whether they belong to it. -/
structure Folding where
  text : List Char := []
  /-- Blanks since the last other character, the latest first. -/
  blanks : List Char := []
  /-- A break has come since the last other character. -/
  broken : Bool := false
  /-- The first such break, unless it was escaped. -/
  firstBreak : Option Char := none
  /-- The breaks after it, the latest first. -/
  furtherBreaks : List Char := []

namespace Folding

/-- The text with its blanks and breaks folded. -/
def join (folding : Folding) : List Char :=
  if folding.broken then
    match folding.firstBreak with
    | some '\n' =>
        if folding.furtherBreaks.isEmpty then ' ' :: folding.text
        else folding.furtherBreaks ++ folding.text
    | some c => folding.furtherBreaks ++ c :: folding.text
    | none => folding.furtherBreaks ++ folding.text
  else folding.blanks ++ folding.text

/-- Adds characters that are neither blanks nor breaks. -/
def append (folding : Folding) (chars : List Char) : Folding :=
  if chars.isEmpty then folding else { text := chars.reverse ++ folding.join }

/-- Adds a blank; blanks after a break do not count. -/
def addBlank (folding : Folding) (c : Char) : Folding :=
  if folding.broken then folding else { folding with blanks := c :: folding.blanks }

/-- Adds a break. -/
def addBreak (folding : Folding) (c : Char) : Folding :=
  if folding.broken then { folding with furtherBreaks := c :: folding.furtherBreaks }
  else { folding with blanks := [], broken := true, firstBreak := some c }

/-- Adds a break that was escaped, which leaves no space. -/
def addEscapedBreak (folding : Folding) : Folding :=
  { text := folding.join, broken := true }

def result (text : List Char) : String := String.ofList text.reverse

end Folding

/-- Moves over blanks and breaks.  A tab may not stand in the indentation, that is, after a
break in a column before `indent`. -/
def scanBlanks (indent : Nat) : Nat → Cursor → Folding → Option (Cursor × Folding)
  | 0, cursor, folding => some (cursor, folding)
  | fuel + 1, cursor, folding =>
      match cursor.head? with
      | none => some (cursor, folding)
      | some c =>
          if isBlank c then
            if folding.broken && c = '\t' && cursor.mark.column < indent then none
            else scanBlanks indent fuel (cursor.skip 1) (folding.addBlank c)
          else
            match cursor.takeBreak? with
            | some (read, after) => scanBlanks indent fuel after (folding.addBreak read)
            | none => some (cursor, folding)

/-! ## Plain scalars -/

/-- The characters of a plain scalar up to a blank or to an indicator that ends it; `none` when
a colon stands in a flow collection right before an indicator. -/
def plainRun (inFlow : Bool) : List Char → Option (List Char)
  | [] => some []
  | c :: rest =>
      let next := rest.head?.getD ' '
      if isBlankOrBreak c then some []
      else if inFlow && c = ':' && [',', '?', '[', ']', '\x7b', '\x7d'].contains next then none
      else if c = ':' && startsBlank rest then some []
      else if inFlow && [',', '[', ']', '\x7b', '\x7d'].contains c then some []
      else (plainRun inFlow rest).map (c :: ·)

/-- The lines of a plain scalar; it goes on as long as lines are indented by `indent`. -/
def plainLines (inFlow : Bool) (indent : Nat) :
    Nat → Cursor → Folding → Option (Cursor × Folding)
  | 0, cursor, folding => some (cursor, folding)
  | fuel + 1, cursor, folding =>
      if cursor.atDocumentMarker || cursor.head? = some '#' then some (cursor, folding)
      else
        match plainRun inFlow cursor.rest with
        | none => none
        | some run =>
            let cursor := cursor.skip run.length
            let folding := folding.append run
            if !(cursor.head?.any isBlankOrBreak) then some (cursor, folding)
            else
              match scanBlanks indent cursor.bound cursor folding with
              | none => none
              | some (cursor, folding) =>
                  if !inFlow && cursor.mark.column < indent then some (cursor, folding)
                  else plainLines inFlow indent fuel cursor folding

/-- A plain scalar, and whether it ended after a line break. -/
def scanPlain (inFlow : Bool) (indent : Nat) (cursor : Cursor) :
    Option (String × Bool × Cursor) :=
  match plainLines inFlow indent (cursor.bound + 1) cursor {} with
  | none => none
  | some (cursor, folding) => some (Folding.result folding.text, folding.broken, cursor)

/-! ## Quoted scalars -/

/-- The characters of a line of a single-quoted scalar, the latest first; a quote written twice
stands for one. -/
def singleQuotedRun : Nat → List Char → Cursor → List Char × Cursor
  | 0, read, cursor => (read, cursor)
  | fuel + 1, read, cursor =>
      match cursor.rest with
      | '\'' :: '\'' :: _ => singleQuotedRun fuel ('\'' :: read) (cursor.skip 2)
      | '\'' :: _ => (read, cursor)
      | c :: _ =>
          if isBlankOrBreak c then (read, cursor)
          else singleQuotedRun fuel (c :: read) (cursor.skip 1)
      | [] => (read, cursor)

/-- The character that an escape of one letter stands for. -/
def simpleEscape? (letter : Char) : Option Char :=
  match letter with
  | '0' => some '\x00'
  | 'a' => some '\x07'
  | 'b' => some '\x08'
  | 't' => some '\t'
  | '\t' => some '\t'
  | 'n' => some '\n'
  | 'v' => some '\x0b'
  | 'f' => some '\x0c'
  | 'r' => some '\r'
  | 'e' => some '\x1b'
  | ' ' => some ' '
  | '"' => some '"'
  | '/' => some '/'
  | '\\' => some '\\'
  | 'N' => some '\u0085'
  | '_' => some '\u00a0'
  | 'L' => some '\u2028'
  | 'P' => some '\u2029'
  | _ => none

/-- The number of digits after an escape by code point. -/
def codeLength? (letter : Char) : Option Nat :=
  match letter with
  | 'x' => some 2
  | 'u' => some 4
  | 'U' => some 8
  | _ => none

/-- The character that an escape after a backslash stands for, and the length of the escape. -/
def escapeChar? : List Char → Option (Char × Nat)
  | [] => none
  | letter :: rest =>
      match simpleEscape? letter with
      | some c => some (c, 1)
      | none =>
          match codeLength? letter with
          | none => none
          | some length =>
              if rest.length < length then none
              else
                match Text.digits? 16 (rest.take length) with
                | none => none
                | some code => if code.isValidChar then some (Char.ofNat code, length + 1) else none

/-- How a run of characters of a double-quoted scalar ends. -/
inductive RunEnd where
  /-- At a blank, a break, the closing quote or the end of the stream. -/
  | stopped
  /-- After an escaped line break. -/
  | escapedBreak

/-- The characters of a line of a double-quoted scalar, the latest first. -/
def doubleQuotedRun : Nat → List Char → Cursor → Option (List Char × Cursor × RunEnd)
  | 0, read, cursor => some (read, cursor, .stopped)
  | fuel + 1, read, cursor =>
      match cursor.rest with
      | [] => some (read, cursor, .stopped)
      | '"' :: _ => some (read, cursor, .stopped)
      | '\\' :: rest =>
          match (cursor.skip 1).takeBreak? with
          | some (_, after) => some (read, after, .escapedBreak)
          | none =>
              match escapeChar? rest with
              | none => none
              | some (c, length) => doubleQuotedRun fuel (c :: read) (cursor.skip (length + 1))
      | c :: _ =>
          if isBlankOrBreak c then some (read, cursor, .stopped)
          else doubleQuotedRun fuel (c :: read) (cursor.skip 1)

/-- The lines of a quoted scalar up to its closing quote. -/
def quotedLines (single : Bool) : Nat → Cursor → Folding → Option (String × Cursor)
  | 0, _, _ => none
  | fuel + 1, cursor, folding =>
      if cursor.atDocumentMarker || cursor.rest.isEmpty then none
      else
        let run :=
          if single then
            let (read, cursor) := singleQuotedRun cursor.bound [] cursor
            some (read, cursor, RunEnd.stopped)
          else doubleQuotedRun cursor.bound [] cursor
        match run with
        | none => none
        | some (read, cursor, runEnd) =>
            let folding := folding.append read.reverse
            let folding :=
              match runEnd with
              | .stopped => folding
              | .escapedBreak => folding.addEscapedBreak
            if cursor.head? = some (if single then '\'' else '"') then
              some (Folding.result folding.join, cursor.skip 1)
            else
              match scanBlanks 0 cursor.bound cursor folding with
              | none => none
              | some (cursor, folding) => quotedLines single fuel cursor folding

/-- A single-quoted scalar, its opening quote next. -/
def scanSingleQuoted (cursor : Cursor) : Option (String × Cursor) :=
  quotedLines true (cursor.bound + 1) (cursor.skip 1) {}

/-- A double-quoted scalar, its opening quote next. -/
def scanDoubleQuoted (cursor : Cursor) : Option (String × Cursor) :=
  quotedLines false (cursor.bound + 1) (cursor.skip 1) {}

end LooseKeys.Yaml

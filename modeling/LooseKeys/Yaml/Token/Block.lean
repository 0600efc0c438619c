/-
Module: LooseKeys.Yaml.Token.Block
Purpose: Literal and folded block scalars.
Main exports: scanBlock
-/
import LooseKeys.Yaml.Cursor

/-!
The content of a block scalar is the lines that are indented as far as its first non-empty line,
or by a given number of columns.  A folded scalar reads a break between two lines that do not
start with a blank as a space.
-/

namespace LooseKeys.Yaml

/-- What becomes of the breaks at the end of a block scalar. -/
inductive Chomping where
  /-- None is kept. -/
  | strip
  /-- The last line keeps its break. -/
  | clip
  /-- All are kept. -/
  | keep
deriving DecidableEq

/-- The indicators after the introducing character: how to chomp, and the indentation. -/
def blockHeader? (cursor : Cursor) : Option (Chomping × Option Nat × Cursor) :=
  let chomping? (c : Char) : Option Chomping :=
    if c = '+' then some .keep else if c = '-' then some .strip else none
  match cursor.rest with
  | [] => some (.clip, none, cursor)
  | first :: rest =>
      match chomping? first with
      | some chomping =>
          match rest with
          | second :: _ =>
              if second = '0' then none
              else if second.isDigit then
                some (chomping, some (second.toNat - '0'.toNat), cursor.skip 2)
              else some (chomping, none, cursor.skip 1)
          | [] => some (chomping, none, cursor.skip 1)
      | none =>
          if first = '0' then none
          else if first.isDigit then
            let increment := some (first.toNat - '0'.toNat)
            match rest.head?.bind chomping? with
            | some chomping => some (chomping, increment, cursor.skip 2)
            | none => some (.clip, increment, cursor.skip 1)
          else some (.clip, none, cursor)

/-- Moves over the indentation of the next non-empty line and the empty lines before it, whose
breaks are collected, the latest first.  Until the indentation is known every space belongs to
it, and the greatest column reached is told.  A tab in the indentation is refused. -/
def blockBreaks (indent : Option Nat) :
    Nat → Cursor → List Char → Nat → Option (Cursor × List Char × Nat)
  | 0, cursor, breaks, widest => some (cursor, breaks, widest)
  | fuel + 1, cursor, breaks, widest =>
      let spaces := cursor.rest.takeWhile (· = ' ')
      let wanted :=
        match indent with
        | some indent => indent - cursor.mark.column
        | none => spaces.length
      let cursor := cursor.skip (min spaces.length wanted)
      let column := cursor.mark.column
      let widest := max widest column
      let inIndentation := indent.all (column < ·)
      if inIndentation && cursor.head? = some '\t' then none
      else
        match cursor.takeBreak? with
        | some (read, after) => blockBreaks indent fuel after (read :: breaks) widest
        | none => some (cursor, breaks, widest)

/-- What has been read of a block scalar, the latest character first. -/
structure BlockText where
  text : List Char := []
  /-- The break of the last line. -/
  lineBreak : Option Char := none
  /-- The breaks of the empty lines after it. -/
  emptyLines : List Char := []
  /-- The last line started with a blank. -/
  startedBlank : Bool := false

/-- Puts the breaks before a line that starts with `blank`, or with another character. -/
def BlockText.beforeLine (block : BlockText) (folded blank : Bool) : List Char :=
  let opening :=
    match block.lineBreak with
    | some '\n' =>
        if folded && !block.startedBlank && !blank then
          if block.emptyLines.isEmpty then ' ' :: block.text else block.text
        else '\n' :: block.text
    | some c => c :: block.text
    | none => block.text
  block.emptyLines ++ opening

/-- The lines of a block scalar. -/
def blockLines (folded : Bool) (indent : Nat) :
    Nat → Cursor → BlockText → Option (Cursor × BlockText)
  | 0, cursor, block => some (cursor, block)
  | fuel + 1, cursor, block =>
      if cursor.mark.column ≠ indent || cursor.rest.isEmpty then some (cursor, block)
      else
        let blank := cursor.head?.any isBlank
        let text := block.beforeLine folded blank
        let (line, cursor) := cursor.takeWhile (fun c => !isBreak c)
        let (lineBreak, cursor) :=
          match cursor.takeBreak? with
          | some (read, after) => (some read, after)
          | none => (none, cursor)
        match blockBreaks (some indent) (cursor.bound + 1) cursor [] 0 with
        | none => none
        | some (cursor, emptyLines, _) =>
            blockLines folded indent fuel cursor
              { text := line.reverse ++ text, lineBreak, emptyLines, startedBlank := blank }

/-- A block scalar, its introducing character next; `parentIndent` is the indentation of the
collection around it, if there is one. -/
def scanBlock (folded : Bool) (parentIndent : Option Nat) (cursor : Cursor) :
    Option (String × Cursor) := do
  let (chomping, increment, cursor) ← blockHeader? (cursor.skip 1)
  let cursor ← cursor.finishLine?
  let given := increment.map (· + parentIndent.getD 0)
  let (cursor, emptyLines, widest) ←
    blockBreaks given (cursor.bound + 1) cursor [] 0
  let least := max 1 ((parentIndent.map (· + 1)).getD 0)
  let indent := given.getD (max widest least)
  let (cursor, block) ←
    blockLines folded indent (cursor.bound + 1) cursor { emptyLines }
  let closing :=
    match chomping with
    | .strip => []
    | .clip => block.lineBreak.toList
    | .keep => block.emptyLines ++ block.lineBreak.toList
  return (String.ofList (closing ++ block.text).reverse, cursor)

end LooseKeys.Yaml

/-
Module: LooseKeys.Yaml.Token.Lexer
Purpose: The tokens of a text, as far as they can be told.
Main exports: Lexer, Token.ofText
-/
import LooseKeys.Yaml.Token.Block
import LooseKeys.Yaml.Token.Folded
import LooseKeys.Yaml.Token.Property

/-!
A scalar, an alias, a property or a flow collection may turn out to be the key of a mapping
entry when a colon follows it on the same line within 1024 bytes.  Such a place is kept as
a possible key; the colon then puts a key token there, and the start of a block mapping in front
of it if the indentation asks for one.  A token behind a possible key is therefore certain only
once the key is decided, and a fault in the text takes away the tokens that are not certain.
-/

namespace LooseKeys.Yaml

/-- A place at which a key token may have to be put. -/
structure PossibleKey where
  /-- The number of tokens before it. -/
  position : Nat
  mark : Mark
  /-- It stands where a block mapping goes on, so that it must be a key. -/
  required : Bool

/-- The state of a scan. -/
structure Lexer where
  cursor : Cursor
  tokens : Array Token := #[]
  /-- The indentation of the innermost block collection, if there is one, and of those around
  it. -/
  indents : List Nat := []
  /-- The possible keys of the flow collections, the innermost first, and at the end that of the
  block around them. -/
  keys : List (Option PossibleKey) := [none]
  /-- Whether a key may start here. -/
  keyAllowed : Bool := true
  finished : Bool := false

namespace Lexer

/-- Whether a flow collection is open. -/
def inFlow (lexer : Lexer) : Bool := 1 < lexer.keys.length

def push (lexer : Lexer) (token : Token) : Lexer :=
  { lexer with tokens := lexer.tokens.push token }

def insertAt (lexer : Lexer) (position : Nat) (token : Token) : Lexer :=
  { lexer with tokens := lexer.tokens.insertIdxIfInBounds position token }

def moveTo (lexer : Lexer) (cursor : Cursor) : Lexer := { lexer with cursor }

/-- Adds a token that is `length` characters long. -/
def pushLong (lexer : Lexer) (length : Nat) (token : Token) : Lexer :=
  (lexer.moveTo (lexer.cursor.skip length)).push token

def column (lexer : Lexer) : Nat := lexer.cursor.mark.column

/-! ## Indentation -/

/-- Opens a block collection if a column is further to the right than the innermost one; its
start goes to a position among the tokens. -/
def indentTo (lexer : Lexer) (column position : Nat) (token : Token) : Lexer :=
  if lexer.inFlow || lexer.indents.head?.any (column ≤ ·) then lexer
  else { lexer.insertAt position token with indents := column :: lexer.indents }

/-- Closes the block collections that are further to the right than a column; without a column
all of them. -/
def unindent (lexer : Lexer) (column : Option Nat) : Lexer :=
  if lexer.inFlow then lexer
  else
    let closing := lexer.indents.takeWhile (fun indent => column.all (· < indent))
    { lexer with
      indents := lexer.indents.drop closing.length
      tokens := lexer.tokens ++ Array.replicate closing.length Token.blockEnd }

/-! ## Possible keys -/

/-- Gives up the innermost possible key; a required one cannot be given up. -/
def dropKey? (lexer : Lexer) : Option Lexer :=
  match lexer.keys with
  | some key :: rest => if key.required then none else some { lexer with keys := none :: rest }
  | _ => some lexer

/-- Notes that a key may start here. -/
def saveKey? (lexer : Lexer) : Option Lexer :=
  if lexer.keyAllowed then do
    let lexer ← lexer.dropKey?
    let required := !lexer.inFlow && lexer.indents.head? = some lexer.column
    let key : PossibleKey :=
      { position := lexer.tokens.size, mark := lexer.cursor.mark, required }
    return { lexer with keys := some key :: lexer.keys.drop 1 }
  else some lexer

/-- Whether a possible key is too far back to be one. -/
def isStale (mark : Mark) (key : PossibleKey) : Bool :=
  key.mark.line < mark.line || key.mark.index + 1024 < mark.index

/-- Gives up the possible keys that are too far back, unless one of them is required. -/
def dropStale? (lexer : Lexer) : Option Lexer :=
  let stale := isStale lexer.cursor.mark
  if lexer.keys.any (fun key => key.any (fun key => stale key && key.required)) then none
  else some { lexer with keys := lexer.keys.map (fun key => key.filter (fun key => !stale key)) }

/-- The number of tokens in front of the first possible key. -/
def certain (lexer : Lexer) : Nat :=
  lexer.keys.foldl (fun least key =>
    match key with
    | some key => min least key.position
    | none => least) lexer.tokens.size

/-! ## Tokens -/

/-- Moves over byte order marks, blanks, comments and line breaks.  A tab does not separate
tokens where a key may start.  A line break outside flow collections allows a key again. -/
def skipToToken : Nat → Lexer → Lexer
  | 0, lexer => lexer
  | fuel + 1, lexer =>
      let tabs := lexer.inFlow || !lexer.keyAllowed
      let cursor :=
        lexer.cursor.skipByteOrderMark.skipWhile (fun c => c = ' ' || (tabs && c = '\t'))
      let cursor :=
        if cursor.head? = some '#' then cursor.skipWhile (fun c => !isBreak c) else cursor
      match cursor.takeBreak? with
      | some (_, after) =>
          skipToToken fuel
            { lexer with cursor := after, keyAllowed := lexer.keyAllowed || !lexer.inFlow }
      | none => lexer.moveTo cursor

/-- The end of the stream closes everything; it counts as the end of a line. -/
def fetchStreamEnd (lexer : Lexer) : Option Lexer := do
  let cursor := if lexer.column = 0 then lexer.cursor else lexer.cursor.nextLine 0
  let lexer ← ((lexer.moveTo cursor).unindent none).dropKey?
  return { lexer.push .streamEnd with keyAllowed := false, finished := true }

def fetchDirective (lexer : Lexer) : Option Lexer := do
  let lexer ← (lexer.unindent none).dropKey?
  let (token, cursor) ← scanDirective lexer.cursor
  return { (lexer.moveTo cursor).push token with keyAllowed := false }

def fetchDocumentMarker (lexer : Lexer) (token : Token) : Option Lexer := do
  let lexer ← (lexer.unindent none).dropKey?
  return { lexer.pushLong 3 token with keyAllowed := false }

def fetchFlowStart (lexer : Lexer) (token : Token) : Option Lexer := do
  let lexer ← lexer.saveKey?
  return { lexer.pushLong 1 token with keys := none :: lexer.keys, keyAllowed := true }

def fetchFlowEnd (lexer : Lexer) (token : Token) : Option Lexer := do
  let lexer ← lexer.dropKey?
  let keys := if lexer.inFlow then lexer.keys.drop 1 else lexer.keys
  return { lexer.pushLong 1 token with keys, keyAllowed := false }

def fetchFlowEntry (lexer : Lexer) : Option Lexer := do
  let lexer ← lexer.dropKey?
  return { lexer.pushLong 1 .flowEntry with keyAllowed := true }

/-- A hyphen.  Outside flow collections it may open a sequence. -/
def fetchBlockEntry (lexer : Lexer) : Option Lexer := do
  if !lexer.inFlow && !lexer.keyAllowed then none
  else
    let lexer ←
      (lexer.indentTo lexer.column lexer.tokens.size .blockSequenceStart).dropKey?
    return { lexer.pushLong 1 .blockEntry with keyAllowed := true }

/-- A question mark.  Outside flow collections it may open a mapping. -/
def fetchKey (lexer : Lexer) : Option Lexer := do
  if !lexer.inFlow && !lexer.keyAllowed then none
  else
    let lexer ←
      (lexer.indentTo lexer.column lexer.tokens.size .blockMappingStart).dropKey?
    return { lexer.pushLong 1 .key with keyAllowed := !lexer.inFlow }

/-- A colon.  It makes a key of the innermost possible key, or else follows a key that a
question mark began or that is empty. -/
def fetchValue (lexer : Lexer) : Option Lexer :=
  match lexer.keys with
  | some key :: rest =>
      let lexer :=
        (lexer.insertAt key.position .key).indentTo key.mark.column key.position
          .blockMappingStart
      some { lexer.pushLong 1 .value with keys := none :: rest, keyAllowed := false }
  | _ =>
      if !lexer.inFlow && !lexer.keyAllowed then none
      else
        let lexer := lexer.indentTo lexer.column lexer.tokens.size .blockMappingStart
        some { lexer.pushLong 1 .value with keyAllowed := !lexer.inFlow }

/-- A token that may begin a key. -/
def fetchKeyable (lexer : Lexer) (scan : Cursor → Option (Token × Cursor)) : Option Lexer := do
  let lexer ← lexer.saveKey?
  let (token, cursor) ← scan lexer.cursor
  return { (lexer.moveTo cursor).push token with keyAllowed := false }

def fetchBlockScalar (lexer : Lexer) (folded : Bool) : Option Lexer := do
  let lexer ← lexer.dropKey?
  let (text, cursor) ← scanBlock folded lexer.indents.head? lexer.cursor
  let style := if folded then ScalarStyle.folded else .literal
  return { (lexer.moveTo cursor).push (.scalar text style) with keyAllowed := true }

/-- A plain scalar; when it ends after a line break, a key may start there. -/
def fetchPlain (lexer : Lexer) : Option Lexer := do
  let lexer ← lexer.saveKey?
  let indent := (lexer.indents.head?.map (· + 1)).getD 0
  let (text, broken, cursor) ← scanPlain lexer.inFlow indent lexer.cursor
  return { (lexer.moveTo cursor).push (.scalar text .plain) with keyAllowed := broken }

/-- Whether a plain scalar may begin with a character that another follows. -/
def startsPlain (lexer : Lexer) (c : Char) (rest : List Char) : Bool :=
  let indicators := ['-', '?', ':', ',', '[', ']', '\x7b', '\x7d', '#', '&', '*', '!', '|', '>',
    '\'', '"', '%', '@', '\x60']
  (!isBlankOrBreak c && !indicators.contains c)
    || (c = '-' && !(rest.head?.any isBlank))
    || (!lexer.inFlow && (c = '?' || c = ':') && !startsBlank rest)

/-- The next token, which the next character announces. -/
def fetchAt (lexer : Lexer) : Option Lexer :=
  let lineStart := lexer.column = 0
  match lexer.cursor.rest with
  | [] => lexer.fetchStreamEnd
  | c :: rest =>
      if lineStart && c = '%' then lexer.fetchDirective
      else if lexer.cursor.atMarker ['-', '-', '-'] then
        lexer.fetchDocumentMarker .documentStart
      else if lexer.cursor.atMarker ['.', '.', '.'] then
        lexer.fetchDocumentMarker .documentEnd
      else if c = '[' then lexer.fetchFlowStart .flowSequenceStart
      else if c = '\x7b' then lexer.fetchFlowStart .flowMappingStart
      else if c = ']' then lexer.fetchFlowEnd .flowSequenceEnd
      else if c = '\x7d' then lexer.fetchFlowEnd .flowMappingEnd
      else if c = ',' then lexer.fetchFlowEntry
      else if c = '-' && startsBlank rest then lexer.fetchBlockEntry
      else if c = '?' && (lexer.inFlow || startsBlank rest) then lexer.fetchKey
      else if c = ':' && (lexer.inFlow || startsBlank rest) then lexer.fetchValue
      else if c = '*' then
        lexer.fetchKeyable (fun cursor =>
          (scanName cursor).map (fun (name, cursor) => (.alias name, cursor)))
      else if c = '&' then
        lexer.fetchKeyable (fun cursor =>
          (scanName cursor).map (fun (name, cursor) => (.anchor name, cursor)))
      else if c = '!' then lexer.fetchKeyable (scanTag lexer.inFlow)
      else if c = '|' && !lexer.inFlow then lexer.fetchBlockScalar false
      else if c = '>' && !lexer.inFlow then lexer.fetchBlockScalar true
      else if c = '\'' then
        lexer.fetchKeyable (fun cursor =>
          (scanSingleQuoted cursor).map (fun (text, cursor) =>
            (.scalar text .singleQuoted, cursor)))
      else if c = '"' then
        lexer.fetchKeyable (fun cursor =>
          (scanDoubleQuoted cursor).map (fun (text, cursor) =>
            (.scalar text .doubleQuoted, cursor)))
      else if lexer.startsPlain c rest then lexer.fetchPlain
      else none

/-- Adds the next token, and the ends of the block collections before it. -/
def fetch (lexer : Lexer) : Option Lexer := do
  let lexer := skipToToken (lexer.cursor.bound + 1) lexer
  let lexer ← lexer.dropStale?
  let lexer ← (lexer.unindent (some lexer.column)).fetchAt
  lexer.dropStale?

/-- Fetches tokens up to the end or a fault; each takes at least one character. -/
def run : Nat → Lexer → Lexer
  | 0, lexer => lexer
  | fuel + 1, lexer =>
      if lexer.finished then lexer
      else
        match lexer.fetch with
        | some next => run fuel next
        | none => lexer

end Lexer

/-- The tokens of a text that are certain.  They end with the end of the stream if and only if
the text has no fault; a character that may not stand in a stream makes all of them
uncertain. -/
def Token.ofText (text : String) : List Token :=
  let chars := text.toList
  if chars.all isAllowed then
    let lexer := Lexer.run (chars.length + 1) { cursor := { rest := chars } }
    lexer.tokens.toList.take lexer.certain
  else []

end LooseKeys.Yaml

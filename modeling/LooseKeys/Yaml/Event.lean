/-
Module: LooseKeys.Yaml.Event
Purpose: The events of a YAML stream: the scalars, and the starts and ends of its collections.
Main exports: Scalar, Event, Event.ofTokens
-/
import LooseKeys.Yaml.Token

/-!
The grammar is read by descent.  A fault may come after events that are already certain, and a
reader of the events may meet a fault of its own among them, so every step keeps the events that
it has read when it fails.

Empty scalars stand where a node is left out.
-/

namespace LooseKeys.Yaml

/-- A scalar with its tag, the handle of which is resolved. -/
structure Scalar where
  text : String
  tag : Option Tag := none
  style : ScalarStyle := .plain
deriving DecidableEq, Repr, Inhabited

/-- An event; a node may carry the name of an anchor. -/
inductive Event where
  | documentStart
  | documentEnd
  | alias (name : String)
  | scalar (scalar : Scalar) (anchor : Option String)
  | sequenceStart (tag : Option Tag) (anchor : Option String)
  | sequenceEnd
  | mappingStart (tag : Option Tag) (anchor : Option String)
  | mappingEnd
deriving DecidableEq, Repr, Inhabited

/-- The properties of a node. -/
structure Properties where
  anchor : Option String := none
  tag : Option Tag := none

/-- What is left to read, and the events read so far, the latest first. -/
structure Descent where
  tokens : List Token
  events : List Event := []
  /-- The tag handles that are declared, with what they stand for. -/
  handles : List (String × Tag) := []

/-- A step goes on with less to read, or fails with the events read so far. -/
abbrev Step := Except (List Event) Descent

namespace Descent

def fail {α : Type} (reading : Descent) : Except (List Event) α := .error reading.events

def emit (reading : Descent) (event : Event) : Descent :=
  { reading with events := event :: reading.events }

def skip (reading : Descent) : Descent := { reading with tokens := reading.tokens.drop 1 }

/-- The next token, which must be certain. -/
def peek (reading : Descent) : Except (List Event) Token :=
  match reading.tokens with
  | token :: _ => .ok token
  | [] => reading.fail

/-- A node that is left out. -/
def emitEmpty (reading : Descent) : Descent := reading.emit (.scalar { text := "" } none)

/-- What a tag with a handle stands for. -/
def resolveTag (reading : Descent) (handle : String) (suffix : Tag) :
    Except (List Event) (Option Tag) :=
  if handle = "" then .ok (some suffix)
  else
    match reading.handles.lookup handle with
    | some start => .ok (some (start.append suffix))
    | none => reading.fail

/-- The properties in front of a node: an anchor and a tag in either order. -/
def properties (reading : Descent) : Except (List Event) (Properties × Descent) := do
  match ← reading.peek with
  | .anchor name =>
      let after := reading.skip
      match ← after.peek with
      | .tag handle suffix =>
          let after := after.skip
          let _ ← after.peek
          return ({ anchor := name, tag := ← after.resolveTag handle suffix }, after)
      | _ => return ({ anchor := name }, after)
  | .tag handle suffix =>
      let after := reading.skip
      match ← after.peek with
      | .anchor name =>
          let after := after.skip
          let _ ← after.peek
          return ({ anchor := name, tag := ← after.resolveTag handle suffix }, after)
      | _ => return ({ tag := ← after.resolveTag handle suffix }, after)
  | _ => return ({}, reading)

/-- Where a node stands: whether block collections may begin there, and whether a sequence may
that is not indented. -/
structure Place where
  block : Bool
  unindented : Bool := false

mutual

/-- A node. -/
def node (place : Place) : Nat → Descent → Step
  | 0, reading => reading.fail
  | fuel + 1, reading => do
      match ← reading.peek with
      | .alias name => return (reading.emit (.alias name)).skip
      | _ =>
          let (properties, reading) ← reading.properties
          let start := reading.emit (.sequenceStart properties.tag properties.anchor)
          let mapping := reading.emit (.mappingStart properties.tag properties.anchor)
          match ← reading.peek with
          | .blockEntry =>
              if place.unindented then start.unindentedEntries fuel
              else reading.emptyNode properties
          | .scalar text style =>
              let scalar : Scalar := { text, tag := properties.tag, style }
              return (reading.emit (.scalar scalar properties.anchor)).skip
          | .flowSequenceStart => start.skip.flowEntries true fuel
          | .flowMappingStart => mapping.skip.flowPairs true fuel
          | .blockSequenceStart =>
              if place.block then start.skip.blockEntries fuel
              else reading.emptyNode properties
          | .blockMappingStart =>
              if place.block then mapping.skip.blockPairs fuel
              else reading.emptyNode properties
          | _ => reading.emptyNode properties

/-- A node of which there is nothing but its properties. -/
def emptyNode (reading : Descent) (properties : Properties) : Step :=
  if properties.anchor.isSome || properties.tag.isSome then
    .ok (reading.emit (.scalar { text := "", tag := properties.tag } properties.anchor))
  else reading.fail

/-- The entries of a block sequence up to its end. -/
def blockEntries : Nat → Descent → Step
  | 0, reading => reading.fail
  | fuel + 1, reading => do
      match ← reading.peek with
      | .blockEntry =>
          let entry := reading.skip
          match ← entry.peek with
          | .blockEntry | .blockEnd => blockEntries fuel entry.emitEmpty
          | _ => blockEntries fuel (← node { block := true } fuel entry)
      | .blockEnd => return (reading.emit .sequenceEnd).skip
      | _ => reading.fail

/-- The entries of a sequence that is not indented; it ends where no further entry follows. -/
def unindentedEntries : Nat → Descent → Step
  | 0, reading => reading.fail
  | fuel + 1, reading => do
      match ← reading.peek with
      | .blockEntry =>
          let entry := reading.skip
          match ← entry.peek with
          | .blockEntry | .key | .value | .blockEnd => unindentedEntries fuel entry.emitEmpty
          | _ => unindentedEntries fuel (← node { block := true } fuel entry)
      | _ => return reading.emit .sequenceEnd

/-- The entries of a block mapping up to its end. -/
def blockPairs : Nat → Descent → Step
  | 0, reading => reading.fail
  | fuel + 1, reading => do
      match ← reading.peek with
      | .key => blockPairs fuel (← blockValue fuel (← blockPart fuel reading.skip))
      | .blockEnd => return (reading.emit .mappingEnd).skip
      | _ => reading.fail

/-- The value of an entry of a block mapping, which may be left out. -/
def blockValue : Nat → Descent → Step
  | 0, reading => reading.fail
  | fuel + 1, reading => do
      match ← reading.peek with
      | .value => blockPart fuel reading.skip
      | _ => return reading.emitEmpty

/-- The key or the value of an entry of a block mapping, its indicator read. -/
def blockPart : Nat → Descent → Step
  | 0, reading => reading.fail
  | fuel + 1, reading => do
      match ← reading.peek with
      | .key | .value | .blockEnd => return reading.emitEmpty
      | _ => node { block := true, unindented := true } fuel reading

/-- The entries of a flow sequence up to its end, a comma before each but the first. -/
def flowEntries (first : Bool) : Nat → Descent → Step
  | 0, reading => reading.fail
  | fuel + 1, reading => do
      match ← reading.peek with
      | .flowSequenceEnd => return (reading.emit .sequenceEnd).skip
      | token =>
          let reading ←
            if first then pure reading
            else if token = .flowEntry then pure reading.skip
            else reading.fail
          match ← reading.peek with
          | .flowSequenceEnd => return (reading.emit .sequenceEnd).skip
          | .key =>
              flowEntries false fuel
                (← flowPair fuel (reading.emit (.mappingStart none none)).skip)
          | _ => flowEntries false fuel (← node { block := false } fuel reading)

/-- A mapping of one entry inside a flow sequence, the indicator of its key read.  Whatever
stands in the place of a key that is left out is passed over. -/
def flowPair : Nat → Descent → Step
  | 0, reading => reading.fail
  | fuel + 1, reading => do
      let reading ←
        match ← reading.peek with
        | .value | .flowEntry | .flowSequenceEnd => pure reading.emitEmpty.skip
        | _ => node { block := false } fuel reading
      let reading ←
        match ← reading.peek with
        | .value =>
            let value := reading.skip
            match ← value.peek with
            | .flowEntry | .flowSequenceEnd => pure value.emitEmpty
            | _ => node { block := false } fuel value
        | _ => pure reading.emitEmpty
      let _ ← reading.peek
      return reading.emit .mappingEnd

/-- The entries of a flow mapping up to its end, a comma before each but the first. -/
def flowPairs (first : Bool) : Nat → Descent → Step
  | 0, reading => reading.fail
  | fuel + 1, reading => do
      match ← reading.peek with
      | .flowMappingEnd => return (reading.emit .mappingEnd).skip
      | token =>
          let reading ←
            if first then pure reading
            else if token = .flowEntry then pure reading.skip
            else reading.fail
          match ← reading.peek with
          | .flowMappingEnd => return (reading.emit .mappingEnd).skip
          | .key =>
              let key := reading.skip
              let reading ←
                match ← key.peek with
                | .value | .flowEntry | .flowMappingEnd => pure key.emitEmpty
                | _ => node { block := false } fuel key
              let reading ←
                match ← reading.peek with
                | .value =>
                    let value := reading.skip
                    match ← value.peek with
                    | .flowEntry | .flowMappingEnd => pure value.emitEmpty
                    | _ => node { block := false } fuel value
                | _ => pure reading.emitEmpty
              flowPairs false fuel reading
          | _ =>
              let reading ← node { block := false } fuel reading
              let _ ← reading.peek
              flowPairs false fuel reading.emitEmpty

end

/-- The handles that need no declaration. -/
def standardHandles : List (String × Tag) :=
  [("!", .ofString "!"), ("!!", .ofString "tag:yaml.org,2002:")]

/-- The directives in front of a document.  One version, 1.1 or 1.2, and each handle once may be
declared. -/
def directives (versioned : Bool) : Nat → Descent → Step
  | 0, reading => reading.fail
  | fuel + 1, reading => do
      match ← reading.peek with
      | .version major minor =>
          if versioned || major ≠ 1 || (minor ≠ 1 && minor ≠ 2) then reading.fail
          else directives true fuel reading.skip
      | .tagDirective handle start =>
          if (reading.handles.lookup handle).isSome then reading.fail
          else
            directives versioned fuel
              { reading.skip with handles := (handle, start) :: reading.handles }
      | _ => return { reading with handles := reading.handles ++ standardHandles }

/-- Passes over the marks that end a document. -/
def skipDocumentEnds (reading : Descent) : Descent :=
  { reading with tokens := reading.tokens.dropWhile (· = .documentEnd) }

/-- The content of a document, its start read. -/
def document (fuel : Nat) (reading : Descent) : Step := do
  match ← reading.peek with
  | .version .. | .tagDirective .. | .documentStart | .documentEnd | .streamEnd =>
      return reading.emitEmpty
  | _ => node { block := true } fuel reading

/-- The end of a document, which needs no mark. -/
def documentEnd (reading : Descent) : Step := do
  match ← reading.peek with
  | .documentEnd => return (reading.emit .documentEnd).skip
  | _ => return reading.emit .documentEnd

/-- The documents of a stream.  Only the first may do without a mark at its start. -/
def documents (first : Bool) : Nat → Descent → Step
  | 0, reading => reading.fail
  | fuel + 1, reading => do
      let reading := { if first then reading else reading.skipDocumentEnds with handles := [] }
      match ← reading.peek with
      | .streamEnd => return reading.skip
      | token =>
          let marked :=
            match token with
            | .version .. | .tagDirective .. | .documentStart => true
            | _ => !first
          if marked then do
            let reading ← reading.directives false fuel
            if (← reading.peek) = .documentStart then
              let reading ← (reading.emit .documentStart).skip.document fuel
              documents false fuel (← reading.documentEnd)
            else reading.fail
          else do
            let reading := (reading.emit .documentStart)
            let reading := { reading with handles := standardHandles }
            let reading ← node { block := true } fuel reading
            documents false fuel (← reading.documentEnd)

end Descent

/-- The events of the documents that tokens make up, and whether they make up a whole stream.
The fuel allows several steps for each token. -/
def Event.ofTokens (tokens : List Token) : List Event × Bool :=
  match Descent.documents true (4 * tokens.length + 8) { tokens } with
  | .ok reading => (reading.events.reverse, true)
  | .error events => (events.reverse, false)

end LooseKeys.Yaml

/-
Module: LooseKeys.Yaml.Typed
Purpose: Typed reading of YAML documents.
Main exports: Path, Trouble, Position, Reader, readText, readUnsigned64, readUnsigned32,
  readSigned64, readTruth, readOption, readVariant, readList, readMap, readRecord, Document.read
-/
import LooseKeys.Error
import LooseKeys.Yaml.Document
import LooseKeys.Yaml.Scalar

/-!
A reader goes through the items of a document in order, so that the first problem is the one
reported.  A fault in the text counts as a problem at the place where the items end.

A fault is reported with the path of the innermost value whose reading it ends.

What an alias stands for is read again at each place of the alias, so that a short document may
stand for a long one.  A reader therefore follows only so many aliases, a hundred for each item.
-/

namespace LooseKeys.Yaml

open LooseKeys.Reading

/-- The place of a value in a document. -/
inductive Path where
  | root
  | entry (parent : Path) (key : String)
  | element (parent : Path) (index : Nat)
  /-- The value of an entry whose key is no scalar. -/
  | unnamed (parent : Path)
deriving Repr

namespace Path

mutual

def render : Path → String
  | .root => "."
  | .entry parent key => renderParent parent ++ key
  | .element parent index => render parent ++ "[" ++ toString index ++ "]"
  | .unnamed parent => renderParent parent ++ "?"

/-- A path with the dot that joins it to what follows; the root has none. -/
def renderParent : Path → String
  | .root => ""
  | .entry parent key => renderParent parent ++ key ++ "."
  | .element parent index => render parent ++ "[" ++ toString index ++ "]."
  | .unnamed parent => renderParent parent ++ "?."

end

end Path

/-- Why a document cannot be read: a fault in its text, or too many aliases in it, or a fault in
a value of it, the path of which may not be known yet. -/
inductive Trouble where
  | malformed
  | unfit (path : Option Path) (fault : Fault)

/-- Fills in the path of a fault, unless it is known. -/
def Trouble.within (path : Path) : Trouble → Trouble
  | .unfit none fault => .unfit (some path) fault
  | trouble => trouble

/-- How far a document is read. -/
structure Position where
  items : List Item
  /-- The number of aliases that may still be followed. -/
  aliases : Nat

/-- The start of a document. -/
def Document.start (document : Document) : Position :=
  { items := document.items, aliases := 100 * document.size }

/-- Reads a value that has a path, and gives the position after it. -/
abbrev Reader (α : Type) := Document → Path → Position → Except Trouble (α × Position)

/-- Reads what comes next, or what the alias that comes next stands for. -/
def resolving {α : Type}
    (read : Document → Path → Item → Position → Except Trouble (α × Position)) : Reader α :=
  fun document path position =>
    match position.items with
    | [] => .error .malformed
    | .alias number :: rest =>
        match position.aliases, document.itemsAt number with
        | aliases + 1, item :: items => do
            let (value, inside) ← read document path item { items, aliases }
            return (value, { inside with items := rest })
        | _, _ => .error .malformed
    | item :: rest => read document path item { position with items := rest }

/-- Fills in the path of the faults of a reader. -/
def located {α : Type} (read : Reader α) : Reader α := fun document path position =>
  (read document path position).mapError (·.within path)

/-- The fault of an item where something else was wanted. -/
def Item.mismatch (item : Item) (wanted : String) : Trouble :=
  match item with
  | .scalar content => .unfit none (content.mismatch wanted)
  | .sequenceStart _ => .unfit none (.wrongType .sequence wanted)
  | .mappingStart _ => .unfit none (.wrongType .map wanted)
  | _ => .malformed

/-! ## Scalars -/

/-- Any scalar, by its text. -/
def readTextAs (wanted : String) : Reader String :=
  located (resolving (fun _ _ item rest =>
    match item with
    | .scalar scalar => .ok (scalar.text, rest)
    | item => .error (item.mismatch wanted)))

def readText : Reader String := readTextAs "a string"

def readPath : Reader String := readTextAs "path string"

/-- Whether the text of a scalar may be read as a value of a type: it is plain, or it is literal
and has the tag of the type. -/
def Scalar.mayBe (scalar : Scalar) (tag : Tag) : Bool :=
  scalar.style = .plain || (scalar.style = .literal && scalar.tag = some tag)

/-- A scalar of a type. -/
def readScalar {α : Type} (tag : Tag) (wanted : String) (read? : List Char → Option α) :
    Reader α :=
  located (resolving (fun _ _ item rest =>
    match item with
    | .scalar scalar =>
        match if scalar.mayBe tag then read? scalar.text.toList else none with
        | some value => .ok (value, rest)
        | none => .error (item.mismatch wanted)
    | item => .error (item.mismatch wanted)))

def readTruth : Reader Bool := readScalar Scalar.booleanTag "a boolean" truth?

def readUnsigned64 : Reader Nat :=
  readScalar Scalar.integerTag "u64" (unsigned? Text.maxUnsigned64)

def readSigned64 : Reader Int := readScalar Scalar.integerTag "i64" signed?

/-- An unsigned number of 32 bits; one of more bits has the right type but a wrong value. -/
def readUnsigned32 : Reader Nat := located (fun document path position => do
  let (value, rest) ←
    readScalar Scalar.integerTag "u32" (unsigned? Text.maxUnsigned64) document path position
  if value ≤ Text.maxUnsigned32 then return (value, rest)
  else throw (.unfit none (.wrongValue (.integer value) "u32")))

/-- Whether a scalar stands for a value that is left out. -/
def Scalar.isAbsent (scalar : Scalar) : Except Trouble Bool :=
  let chars := scalar.text.toList
  if scalar.style ≠ .plain then .ok false
  else
    match scalar.tag with
    | none => .ok (chars.isEmpty || isNull chars)
    | some tag =>
        if tag ≠ Scalar.nullTag then .ok false
        else if isNull chars then .ok true
        else .error (.unfit none (.wrongValue (.text scalar.text) "null"))

/-- A value that may be null. -/
def readOption {α : Type} (read : Reader α) : Reader (Option α) :=
  resolving (fun document path item rest => do
    let absent ←
      match item with
      | .scalar scalar => scalar.isAbsent
      | _ => .ok false
    if absent then return (none, rest)
    else
      let (value, rest) ← read document path { rest with items := item :: rest.items }
      return (some value, rest))

/-- A choice among names: the text of a scalar, or a local tag on a scalar without content. -/
def readVariant {α : Type} (known : List String) (ofName? : String → Option α) : Reader α :=
  fun document path position =>
    match position.items with
    | .alias _ :: _ => located (resolving choose) document path position
    | _ => resolving choose document path position
where
  variant (name : String) : Except Trouble α :=
    match ofName? name with
    | some chosen => .ok chosen
    | none => .error (.unfit none (.unknownVariant name known))
  /-- A variant has nothing but its name. -/
  content (path : Path) (item : Item) : Except Trouble Unit :=
    match item with
    | .scalar scalar =>
        let chars := scalar.text.toList
        if scalar.style = .plain && (chars.isEmpty || isNull chars) then .ok ()
        else .error (.unfit (some path) (.wrongValue (.text scalar.text) "null"))
    | item => .error ((item.mismatch "unit").within path)
  tagOf (item : Item) : Option Tag :=
    match item with
    | .scalar scalar => scalar.tag
    | .sequenceStart tag => tag
    | .mappingStart tag => tag
    | _ => none
  choose (_ : Document) (path : Path) (item : Item) (rest : Position) :
      Except Trouble (α × Position) := do
    match (tagOf item).bind Tag.localName? with
    | some name =>
        let chosen ← variant name
        content path item
        return (chosen, rest)
    | none =>
        match item with
        | .scalar scalar =>
            let chosen ← (variant scalar.text).mapError (·.within path)
            return (chosen, rest)
        | item => throw ((item.mismatch "a YAML tag starting with '!'").within path)

/-! ## Collections -/

/-- Whether a scalar stands for an empty collection. -/
def Scalar.isEmptyCollection (scalar : Scalar) : Bool :=
  scalar.text.isEmpty && scalar.style = .plain

/-- The elements of a sequence up to its end. -/
def readElements {α : Type} (read : Reader α) (document : Document) (path : Path) :
    Nat → Nat → Position → Except Trouble (List α × Position)
  | 0, _, _ => .error .malformed
  | fuel + 1, index, position =>
      match position.items with
      | .sequenceEnd :: rest => .ok ([], { position with items := rest })
      | _ => do
          let (value, rest) ← read document (.element path index) position
          let (others, rest) ← readElements read document path fuel (index + 1) rest
          return (value :: others, rest)

def readList {α : Type} (read : Reader α) : Reader (List α) :=
  located (resolving (fun document path item rest =>
    match item with
    | .sequenceStart _ => readElements read document path (document.size + 1) 0 rest
    | .scalar scalar =>
        if scalar.isEmptyCollection then .ok ([], rest)
        else .error (item.mismatch "a sequence")
    | item => .error (item.mismatch "a sequence")))

/-- The path of the value that belongs to a key. -/
def pathOfKey (path : Path) (items : List Item) : Path :=
  match items with
  | .scalar scalar :: _ => .entry path scalar.text
  | _ => .unnamed path

/-- The entries of a mapping up to its end; `step` reads the value of a key and takes it into
what has been gathered. -/
def readEntries {β : Type} (wantedKey : String) (step : String → β → Reader β)
    (document : Document) (path : Path) :
    Nat → β → Position → Except Trouble (β × Position)
  | 0, _, _ => .error .malformed
  | fuel + 1, gathered, position =>
      match position.items with
      | .mappingEnd :: rest => .ok (gathered, { position with items := rest })
      | items => do
          let (key, rest) ← readTextAs wantedKey document path position
          let (gathered, rest) ← step key gathered document (pathOfKey path items) rest
          readEntries wantedKey step document path fuel gathered rest

/-- A mapping whose entries are gathered one after the other. -/
def readMapping {β : Type} (wanted wantedKey : String) (start : β)
    (step : String → β → Reader β) : Reader β :=
  located (resolving (fun document path item rest =>
    match item with
    | .mappingStart _ => readEntries wantedKey step document path (document.size + 1) start rest
    | .scalar scalar =>
        if scalar.isEmptyCollection then .ok (start, rest) else .error (item.mismatch wanted)
    | item => .error (item.mismatch wanted)))

/-- The entries of a mapping in order. -/
def readMap {α : Type} (read : Reader α) : Reader (List (String × α)) :=
  readMapping "a map" "a string" [] (fun key entries document path position => do
    let (value, rest) ← read document path position
    return (entries ++ [(key, value)], rest))

/-- A field of a record: its name, and how its value is taken into the record. -/
structure Field (ρ : Type) where
  name : String
  read : Reader (ρ → ρ)

/-- The field whose value a reader reads. -/
def Field.of {α ρ : Type} (name : String) (read : Reader α) (set : α → ρ → ρ) : Field ρ where
  name
  read document path position := do
    let (value, rest) ← read document path position
    return (set value, rest)

/-- A record whose fields are given at most once; other names are refused.  `finish` says what
is missing. -/
def readRecord {ρ α : Type} (wanted : String) (fields : List (Field ρ)) (start : ρ)
    (finish : ρ → Except Fault α) : Reader α :=
  located (fun document path position => do
    let names := fields.map (·.name)
    let ((_, record), rest) ←
      readMapping wanted "field identifier" (([] : List String), start)
        (fun key (seen, record) document valuePath position =>
          match fields.find? (·.name = key) with
          | none => .error (.unfit (some path) (.unknownField key names))
          | some field =>
              if seen.contains key then .error (.unfit (some path) (.duplicateField key))
              else do
                let (set, rest) ← field.read document valuePath position
                return ((key :: seen, set record), rest))
        document path position
    let value ← (finish record).mapError (.unfit none)
    return (value, rest))

/-! ## Documents -/

/-- Reads a whole text as one value. -/
def Document.read {α : Type} (reader : Reader α) (text : String) : Except DocumentFault α :=
  let document := Document.ofText text
  match reader document .root document.start with
  | .ok (value, _) => if document.sound then .ok value else .error .malformed
  | .error .malformed => .error .malformed
  | .error (.unfit path fault) =>
      .error (.unfit ((path.getD .root).render) fault)

end LooseKeys.Yaml

/-
Module: LooseKeys.Registry.Declared
Purpose: Registries from documents that declare relations by parent table.
Main exports: Declaration, Registry.ofEntries, Registry.ofYaml, Registry.ofFile
-/
import LooseKeys.Files
import LooseKeys.Registry
import LooseKeys.Yaml.Typed

/-!
A document maps each parent table to the list of its relations.  The entries are taken in
ascending order of the parent tables as they are spelled; of entries with one spelling the last
counts.
-/

namespace LooseKeys

/-- A relation as its parent table declares it. -/
structure Declaration where
  table : String
  column : String
  onDelete : Strategy
  primaryKey : String := defaultPrimaryKey
deriving DecidableEq, Repr, Inhabited

/-- The relation that a parent table declares. -/
def Declaration.toRelation (parentTable : String) (declaration : Declaration) : Relation :=
  (Relation.declare parentTable declaration.table declaration.column
    declaration.onDelete).withPrimaryKey declaration.primaryKey

namespace Registry

/-- The relations of entries in order; an entry without relations is refused. -/
def declaredRelations :
    List (String × List Declaration) → Except CleanupError (List Relation)
  | [] => .ok []
  | (parentTable, declarations) :: rest =>
      if declarations.isEmpty then .error (.config (.noRelations parentTable))
      else
        match declaredRelations rest with
        | .error error => .error error
        | .ok others => .ok (declarations.map (·.toRelation parentTable) ++ others)

/-- The registry of a document's entries, given in document order. -/
def ofEntries (entries : List (String × List Declaration)) : Except CleanupError Registry :=
  match declaredRelations (SortedMap.ofList entries).entries with
  | .error error => .error error
  | .ok relations => ofList relations

/-- A declaration of which some fields may still be missing. -/
structure PartialDeclaration where
  table : Option String := none
  column : Option String := none
  onDelete : Option Strategy := none
  primaryKey : String := defaultPrimaryKey

open Yaml in
/-- The fields of a declaration. -/
def declarationFields : List (Yaml.Field PartialDeclaration) :=
  [.of "table" readText (fun value record => { record with table := some value }),
    .of "column" readText (fun value record => { record with column := some value }),
    .of "on_delete" (readVariant Strategy.names Strategy.ofName?)
      (fun value record => { record with onDelete := some value }),
    .of "primary_key" readText (fun value record => { record with primaryKey := value })]

/-- The declaration, or the first field that is missing. -/
def PartialDeclaration.complete (record : PartialDeclaration) :
    Except Reading.Fault Declaration :=
  match record.table, record.column, record.onDelete with
  | none, _, _ => .error (.missingField "table")
  | _, none, _ => .error (.missingField "column")
  | _, _, none => .error (.missingField "on_delete")
  | some table, some column, some onDelete =>
      .ok { table, column, onDelete, primaryKey := record.primaryKey }

/-- Reads one declaration. -/
def readDeclaration : Yaml.Reader Declaration :=
  Yaml.readRecord "struct RawDefinition" declarationFields {} (·.complete)

/-- The entries of a document that declares relations, in document order. -/
def entriesOfYaml (text : String) : Except DocumentFault (List (String × List Declaration)) :=
  Yaml.Document.read (Yaml.readMap (Yaml.readList readDeclaration)) text

/-- The registry that a document declares. -/
def ofYaml (text : String) : Except CleanupError Registry :=
  match entriesOfYaml text with
  | .error fault => .error (.config (.badDefinitions fault))
  | .ok entries => ofEntries entries

/-- The registry that the document in a file declares. -/
def ofFile (reader : FileReader) (path : String) : Except CleanupError Registry :=
  match reader.text path with
  | .error error => .error error
  | .ok text => ofYaml text

end Registry

end LooseKeys

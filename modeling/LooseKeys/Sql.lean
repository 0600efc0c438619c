/-
Module: LooseKeys.Sql
Purpose: The statements by which a database runs one bounded cleanup pass.
Main exports: quoteIdentifier, deleteStatement, nullifyStatement
-/
import LooseKeys.LockMode
import LooseKeys.Relation

/-!
Every name is emitted in double quotes.  Values are bound as parameters: the first holds the
parents' keys and the second the greatest number of rows.
-/

namespace LooseKeys.Sql

/-- The table that holds the log of deleted records. -/
def deletedRecordsTable : String := "loose_foreign_keys_deleted_records"

/-- One part of a name in double quotes; a double quote inside is written twice. -/
def quotePart (part : List Char) : List Char :=
  '"' :: (part.flatMap (fun c => if c = '"' then ['"', '"'] else [c]) ++ ['"'])

/-- A name that may have a schema: each part between dots is quoted by itself. -/
def quoteIdentifier (name : String) : String :=
  String.ofList (List.intercalate ['.'] ((Text.parts '.' name.toList).map quotePart))

def lockClause : LockMode → String
  | .blocking => "FOR UPDATE"
  | .skipLocked => "FOR UPDATE SKIP LOCKED"

/-- The keys of at most a given number of child rows whose column holds one of the parents'
keys. -/
def boundedSelection (relation : Relation) (mode : LockMode) : String :=
  "SELECT " ++ quoteIdentifier relation.primaryKey ++ " FROM "
    ++ quoteIdentifier relation.childTable ++ " WHERE " ++ quoteIdentifier relation.column
    ++ " = ANY($1) LIMIT $2 " ++ lockClause mode

/-- Deletes the selected child rows. -/
def deleteStatement (relation : Relation) (mode : LockMode) : String :=
  "DELETE FROM " ++ quoteIdentifier relation.childTable ++ " WHERE "
    ++ quoteIdentifier relation.primaryKey ++ " IN (" ++ boundedSelection relation mode ++ ")"

/-- Sets the column of the selected child rows to null. -/
def nullifyStatement (relation : Relation) (mode : LockMode) : String :=
  "UPDATE " ++ quoteIdentifier relation.childTable ++ " SET "
    ++ quoteIdentifier relation.column ++ " = NULL WHERE "
    ++ quoteIdentifier relation.primaryKey ++ " IN (" ++ boundedSelection relation mode ++ ")"

end LooseKeys.Sql

/-
Module: LooseKeys.Relation
Purpose: A loose foreign key: which column of which child table holds keys of a parent table,
  and what happens to the child rows once their parent is gone.
Main exports: Strategy, ModificationKind, Relation, qualify, isTableName, isColumnName,
  Relation.fault?
-/
import LooseKeys.Error
import LooseKeys.Text.Parts

/-!
Names are emitted in quotes, so only names that an unquoted declaration would give are
accepted: lower-case letters, digits and underscores, not starting with a digit.
-/

namespace LooseKeys

/-- What happens to child rows once their parent is gone. -/
inductive Strategy where
  | asyncDelete
  | asyncNullify
deriving DecidableEq, Repr, Inhabited

/-- Whether a pass removes rows or rewrites them. -/
inductive ModificationKind where
  | deletion
  | update
deriving DecidableEq, Repr, Inhabited

def ModificationKind.name : ModificationKind → String
  | .deletion => "deletion"
  | .update => "update"

namespace Strategy

def name : Strategy → String
  | .asyncDelete => "async_delete"
  | .asyncNullify => "async_nullify"

/-- The names under which definitions ask for a strategy. -/
def names : List String := [asyncDelete.name, asyncNullify.name]

def ofName? (text : String) : Option Strategy :=
  if text = asyncDelete.name then some .asyncDelete
  else if text = asyncNullify.name then some .asyncNullify
  else none

def kind : Strategy → ModificationKind
  | .asyncDelete => .deletion
  | .asyncNullify => .update

end Strategy

/-- The schema of a table that is named without one. -/
def defaultSchema : String := "public"

/-- Gives a table name the default schema when it has none. -/
def qualify (table : String) : String :=
  if '.' ∈ table.toList then table else defaultSchema ++ "." ++ table

/-- A qualified name has a schema, so it is qualified already. -/
@[simp] theorem qualify_qualify (table : String) : qualify (qualify table) = qualify table := by
  by_cases schema : '.' ∈ table.toList
  · have same : qualify table = table := if_pos schema
    rw [same, same]
  · have named : qualify table = defaultSchema ++ "." ++ table := if_neg schema
    rw [named]
    apply if_pos
    rw [String.toList_append, String.toList_append]
    apply List.mem_append_left
    apply List.mem_append_right
    decide

/-- A declared loose foreign key. -/
structure Relation where
  parentTable : String
  childTable : String
  /-- The column of the child table that holds the parent's key. -/
  column : String
  strategy : Strategy
  /-- The key of the child table, by which each pass is bounded. -/
  primaryKey : String
deriving DecidableEq, Repr, Inhabited

/-- The primary key of a child table for which none is declared. -/
def defaultPrimaryKey : String := "id"

/-- A lower-case ASCII letter or an underscore. -/
def isNameStart (c : Char) : Bool := c.isLower || c = '_'

/-- A character that may follow the first one of a name. -/
def isNamePart (c : Char) : Bool := isNameStart c || c.isDigit

/-- Whether the characters form one name without a schema. -/
def isSimpleName : List Char → Bool
  | [] => false
  | c :: rest => isNameStart c && rest.all isNamePart

/-- A column has a simple name. -/
def isColumnName (name : String) : Bool := isSimpleName name.toList

/-- A table has a simple name, with at most one schema in front of it. -/
def isTableName (name : String) : Bool :=
  let parts := Text.parts '.' name.toList
  parts.length ≤ 2 && parts.all isSimpleName

namespace Relation

/-- Declares a relation; the parent table is qualified. -/
def declare (parentTable childTable column : String) (strategy : Strategy) : Relation :=
  { parentTable := qualify parentTable, childTable, column, strategy,
    primaryKey := defaultPrimaryKey }

/-- Names the key of the child table. -/
def withPrimaryKey (relation : Relation) (primaryKey : String) : Relation :=
  { relation with primaryKey }

/-- What is wrong with a relation, in the order in which it is looked for. -/
inductive Fault where
  | parentTableName
  | childTableName
  | columnName
  | primaryKeyName
  /-- The column to be set to null is the primary key. -/
  | nullifiesPrimaryKey
  /-- A sibling relation already cleans up this column. -/
  | duplicateColumn
deriving DecidableEq, Repr

/-- The first fault of a relation taken by itself. -/
def fault? (relation : Relation) : Option Fault :=
  if ¬ isTableName relation.parentTable then some .parentTableName
  else if ¬ isTableName relation.childTable then some .childTableName
  else if ¬ isColumnName relation.column then some .columnName
  else if ¬ isColumnName relation.primaryKey then some .primaryKeyName
  else if relation.strategy = .asyncNullify ∧ relation.column = relation.primaryKey then
    some .nullifiesPrimaryKey
  else none

/-- The reason that is reported for a fault of a relation. -/
def reason (relation : Relation) : Fault → String
  | .parentTableName =>
      "parent table " ++ Text.quoted relation.parentTable ++ " is not a valid identifier"
  | .childTableName =>
      "child table " ++ Text.quoted relation.childTable ++ " is not a valid identifier"
  | .columnName => "column " ++ Text.quoted relation.column ++ " is not a valid identifier"
  | .primaryKeyName =>
      "primary key " ++ Text.quoted relation.primaryKey ++ " is not a valid identifier"
  | .nullifiesPrimaryKey => "cannot nullify the primary key"
  | .duplicateColumn => "duplicate column " ++ relation.column

/-- The error for a fault of a relation. -/
def refuse (relation : Relation) (fault : Fault) : CleanupError :=
  .invalidDefinition relation.parentTable relation.childTable (relation.reason fault)

end Relation

end LooseKeys

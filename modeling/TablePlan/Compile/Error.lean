import TablePlan.Dialect
import TablePlan.Index

/-!
# Why a plan does not compile
-/

namespace TablePlan

/-- A part without which a foreign key is incomplete. -/
inductive ForeignKeyPart where
  | column
  | referencedTable
  | referencedColumn
  deriving DecidableEq, Repr

/-- The part in words. -/
def ForeignKeyPart.noun : ForeignKeyPart → String
  | .column => "column"
  | .referencedTable => "referenced table"
  | .referencedColumn => "referenced column"

/-- Work that a dialect has no statement for. -/
inductive UnsupportedWork where
  | primaryKeyBesideAutoincrement
  | severalAutoincrements
  | addPrimaryKey
  | changeColumns
  | dropPrimaryKey
  | renameIndex
  | addForeignKey
  | dropForeignKey
  deriving DecidableEq, Repr

/-- The work in words. -/
def UnsupportedWork.description : UnsupportedWork → String
  | .primaryKeyBesideAutoincrement => "a primary key other than the autoincrement column"
  | .severalAutoincrements => "more than one autoincrement column"
  | .addPrimaryKey => "adding a primary key to an existing table"
  | .changeColumns => "changing columns"
  | .dropPrimaryKey => "dropping a primary key"
  | .renameIndex => "renaming an index"
  | .addForeignKey => "adding a foreign key to an existing column"
  | .dropForeignKey => "dropping a foreign key"

/-- The first fault found in a plan. -/
inductive CompileError where
  | emptyTableName
  | emptyColumnName (table : String)
  | duplicateColumn (table column : String)
  | emptyIndexColumns (table : String) (kind : IndexKind)
  | emptyIndexName (table : String)
  | emptyEnumeration (column : String)
  | nonFiniteDefault (column : String)
  | incompleteForeignKey (table : String) (missing : ForeignKeyPart)
  | missingNewName (table : String)
  | unsupported (dialect : Dialect) (work : UnsupportedWork)
  deriving DecidableEq, Repr

/-- What is said about a fault. -/
def CompileError.message : CompileError → String
  | .emptyTableName => "Table name must not be empty"
  | .emptyColumnName table => "Table '" ++ table ++ "' has a column with an empty name"
  | .duplicateColumn table column =>
    "Column '" ++ column ++ "' is defined more than once on table '" ++ table ++ "'"
  | .emptyIndexColumns table kind =>
    "A " ++ kind.noun ++ " on table '" ++ table ++ "' has no columns"
  | .emptyIndexName table => "An index on table '" ++ table ++ "' has an empty name"
  | .emptyEnumeration column => "Enumeration column '" ++ column ++ "' has no allowed values"
  | .nonFiniteDefault column =>
    "Column '" ++ column ++ "' has a non-finite floating-point default"
  | .incompleteForeignKey table missing =>
    "Foreign key on table '" ++ table ++ "' is missing its " ++ missing.noun
  | .missingNewName table => "Rename of table '" ++ table ++ "' has no new name"
  | .unsupported dialect work => dialect.name ++ " does not support " ++ work.description

end TablePlan

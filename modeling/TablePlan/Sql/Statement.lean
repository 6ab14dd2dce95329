import TablePlan.ForeignKey
import TablePlan.Index
import TablePlan.Sql.Piece

/-!
# Statements

The statements of the data definition language as trees.  A tree says what a statement does;
what it looks like is left to its fragment.  The trees cover the three dialects together, so some
constructors are used by one dialect only.
-/

namespace TablePlan.Sql

/-- The segments of a name, from the outermost to the innermost; each is quoted by itself. -/
abbrev Path := List String

/-- An argument of a native type. -/
inductive TypeArgument where
  | number (n : Nat)
  | word (word : String)
  | literal (text : String)
  deriving DecidableEq, Repr

/-- A native type: a word, its arguments in parentheses if it takes any, and what follows. -/
structure NativeType where
  word : String
  arguments : Option (List TypeArgument) := none
  tail : String := ""
  deriving DecidableEq, Repr

/-- The column that a foreign key points to, and what becomes of the referring rows. -/
structure Reference where
  table : Path
  column : String
  onDelete : Option ReferentialAction
  onUpdate : Option ReferentialAction
  deriving DecidableEq, Repr

/-- A clause of a column definition, after the type. -/
inductive ColumnClause where
  | unsigned
  | collate (collation : Piece)
  | null
  | notNull
  | default (value : Piece)
  | primaryAutoincrement
  | autoIncrement
  | unique
  | comment (text : String)
  | oneOf (column : String) (allowed : List String)
  | references (target : Reference)
  deriving DecidableEq, Repr

/-- The definition of a column. -/
structure ColumnDefinition where
  name : String
  type : NativeType
  clauses : List ColumnClause
  deriving DecidableEq, Repr

/-- A constraint of a table. -/
inductive Constraint where
  | primaryKey (name : Option String) (columns : List String)
  | foreignKey (name : String) (column : String) (target : Reference)
  deriving DecidableEq, Repr

/-- What stands between the parentheses of a table creation. -/
inductive TableElement where
  | column (definition : ColumnDefinition)
  | constraint (constraint : Constraint)
  | key (kind : IndexKind) (name : String) (columns : List String) (method : Option IndexMethod)
  deriving DecidableEq, Repr

/-- What stands behind the parentheses of a table creation.  Names of engines, character sets
and collations are taken as they stand. -/
inductive TableOption where
  | engine (name : String)
  | charset (name : String)
  | collation (name : String)
  | comment (text : String)
  deriving DecidableEq, Repr

/-- What an index covers, and where its access method is named. -/
inductive IndexTarget where
  | columns (methodBefore : Option IndexMethod) (columns : List String)
      (methodAfter : Option IndexMethod)
  | textVectors (columns : List String)
  deriving DecidableEq, Repr

/-- The creation of an index; `qualifier` stands in front of the word `INDEX`. -/
structure IndexCreation where
  qualifier : String
  ifNotExists : Bool
  name : String
  table : Path
  target : IndexTarget
  deriving DecidableEq, Repr

/-- One action of a table alteration. -/
inductive Alteration where
  | addColumn (definition : ColumnDefinition)
  | modifyColumn (definition : ColumnDefinition)
  | setType (column : String) (type : NativeType) (collation : Option String)
  | setNotNull (column : String)
  | dropNotNull (column : String)
  | setDefault (column : String) (value : Piece)
  | dropDefault (column : String)
  | dropColumn (column : String)
  | renameColumn (old new : String)
  | addConstraint (constraint : Constraint)
  | dropConstraint (name : String)
  | dropPrimaryKey
  | dropForeignKey (name : String)
  | dropIndex (name : String)
  | renameIndex (old new : String)
  | renameTable (new : String)
  | setComment (text : String)
  deriving DecidableEq, Repr

/-- A statement. -/
inductive Statement where
  | createTable (ifNotExists : Bool) (table : Path) (elements : List TableElement)
      (options : List TableOption)
  | alterTable (table : Path) (alterations : List Alteration)
  | renameTable (table new : Path)
  | dropTable (ifExists : Bool) (table : Path)
  | createIndex (index : IndexCreation)
  | renameIndex (index : Path) (new : String)
  | dropIndex (index : Path)
  | commentOnTable (table : Path) (text : String)
  | commentOnColumn (table : Path) (column : String) (text : String)
  deriving DecidableEq, Repr

/-- A question that has an answer row exactly when all conditions hold of some row. -/
structure Query where
  source : Fragment
  conditions : List (String × Piece)
  deriving DecidableEq, Repr

end TablePlan.Sql

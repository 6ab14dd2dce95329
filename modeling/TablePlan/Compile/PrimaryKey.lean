import TablePlan.Compile.Check
import TablePlan.Compile.Column

/-!
# The primary key

A primary key declared over a list of columns wins over columns flagged as primary.
-/

namespace TablePlan.Compile

/-- A primary key with its name. -/
structure PrimaryKey where
  name : String
  columns : List String
  deriving DecidableEq, Repr

/-- The key made of the flagged ones among some columns; the first name given counts. -/
def flaggedPrimaryKey? (plan : Plan) (columns : List Column) : Option PrimaryKey :=
  match columns.filter Column.primary with
  | [] => none
  | flagged =>
    some
      { name := (flagged.findSome? Column.primaryName).getD (Name.primaryKey plan.table)
        columns := flagged.map Column.name }

/-- The primary key of a table that is created: the first one declared, or the flagged columns. -/
def primaryKey (plan : Plan) : Except CompileError (Option PrimaryKey) :=
  match plan.indexes.find? fun index => index.kind = .primary with
  | none => .ok (flaggedPrimaryKey? plan plan.columns)
  | some index => do
    checkIndex plan index
    return some { name := plan.indexName index, columns := index.columns }

/-- The primary key that the new columns bring to an existing table.  A declared one is added on
its own. -/
def addedPrimaryKey? (plan : Plan) : Option PrimaryKey :=
  if plan.declaresPrimary then none else flaggedPrimaryKey? plan plan.addedColumns

/-- A primary key constraint as it is added to a table; mysql does not name it. -/
def primaryKeyConstraint (dialect : Dialect) (key : PrimaryKey) : Sql.Constraint :=
  .primaryKey (if dialect = .mysql then none else some key.name) key.columns

end TablePlan.Compile

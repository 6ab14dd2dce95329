import TablePlan.Compile.Comment
import TablePlan.Compile.ForeignKey

/-!
# Table statements

Creating a table, adding to it, changing, dropping and renaming it and its columns.
-/

namespace TablePlan.Compile

open Sql (Statement TableElement)

/-! ## Creation -/

/-- The primary key among the elements of a new table.  In sqlite a column that counts up by
itself is the whole key and says so in its own definition. -/
def primaryKeyElements (dialect : Dialect) (plan : Plan) :
    Except CompileError (List TableElement) := do
  let key ← primaryKey plan
  let elements := key.toList.map fun key => TableElement.constraint
    (.primaryKey (if dialect = .postgres then some key.name else none) key.columns)
  match dialect, plan.columns.filter Column.autoIncrement with
  | .sqlite, [column] =>
    refuseIf (key.any fun key => key.columns != [column.name])
      (.unsupported .sqlite .primaryKeyBesideAutoincrement)
    return []
  | .sqlite, _ :: _ :: _ => .error (.unsupported .sqlite .severalAutoincrements)
  | _, _ => return elements

/-- What a new table holds besides its columns: the primary key, in mysql the indexes, and the
foreign keys. -/
def tableConstraints (dialect : Dialect) (plan : Plan) :
    Except CompileError (List TableElement) := do
  let primary ← primaryKeyElements dialect plan
  let keys ← if declaresKeysInline dialect plan then inlineKeys plan else .ok []
  let foreign ←
    if dialect = .sqlite || plan.ifNotExists then foreignKeyConstraints plan else .ok []
  return primary ++ keys ++ foreign.map .constraint

/-- Creates the table. -/
def createTable (dialect : Dialect) (plan : Plan) (ifNotExists : Bool) :
    Except CompileError (List Statement) := do
  checkTable plan
  checkColumns plan
  let constraints ← tableConstraints dialect plan
  let columns := plan.columns.map fun column => .column (columnDefinition dialect plan column)
  return .createTable ifNotExists (tablePath plan) (columns ++ constraints)
      (tableOptions dialect plan) ::
    columnComments dialect plan plan.columns

/-! ## Columns of an existing table -/

/-- Adds the new columns: in one statement, with the primary key that they bring, or in sqlite
each in its own. -/
def addColumns (dialect : Dialect) (plan : Plan) : Except CompileError (List Statement) := do
  checkTable plan
  checkColumns plan
  let additions := plan.addedColumns.map fun column =>
    Sql.Alteration.addColumn (columnDefinition dialect plan column)
  match dialect with
  | .sqlite =>
    refuseIf (addedPrimaryKey? plan).isSome (.unsupported .sqlite .addPrimaryKey)
    return additions.map fun addition => .alterTable (tablePath plan) [addition]
  | _ =>
    if additions.isEmpty then return []
    let primary := (addedPrimaryKey? plan).toList.map fun key =>
      .addConstraint (primaryKeyConstraint dialect key)
    return .alterTable (tablePath plan) (additions ++ primary) ::
      columnComments dialect plan plan.addedColumns

/-- The change of one column in postgres: its type, whether it may be empty, and its default,
unless that is the sequence of a serial column. -/
def changeColumn (plan : Plan) (column : Column) : Statement :=
  let name := column.name
  let default :=
    match column.defaultValue with
    | none => .dropDefault name
    | some value => .setDefault name (defaultPiece .postgres column.type value)
  .alterTable (tablePath plan)
    ([.setType name (postgresType column.type) column.collation,
      if column.nullable then .dropNotNull name else .setNotNull name] ++
      only (!column.autoIncrement) default)

/-- Changes the columns marked so: in postgres aspect by aspect, in mysql by new definitions, and
in sqlite not at all. -/
def changeColumns (dialect : Dialect) (plan : Plan) : Except CompileError (List Statement) := do
  checkTable plan
  match dialect with
  | .postgres =>
    checkColumns plan
    return plan.changedColumns.map (changeColumn plan) ++
      columnComments .postgres plan plan.changedColumns
  | .mysql =>
    checkColumns plan
    if plan.changedColumns.isEmpty then return []
    return [.alterTable (tablePath plan) (plan.changedColumns.map fun column =>
      .modifyColumn (columnDefinition .mysql plan column))]
  | .sqlite =>
    refuseIf (!plan.changedColumns.isEmpty) (.unsupported .sqlite .changeColumns)
    return []

/-- Drops columns: in one statement, or in sqlite each in its own. -/
def dropColumns (dialect : Dialect) (plan : Plan) : Except CompileError (List Statement) := do
  checkTable plan
  checkColumnNames plan plan.dropColumns
  match dialect with
  | .sqlite =>
    return plan.dropColumns.map fun name => .alterTable (tablePath plan) [.dropColumn name]
  | _ => return [.alterTable (tablePath plan) (plan.dropColumns.map .dropColumn)]

/-- Renames columns, each in its own statement. -/
def renameColumns (plan : Plan) : Except CompileError (List Statement) := do
  checkTable plan
  checkColumnNames plan (plan.renameColumns.flatMap fun (old, new) => [old, new])
  return plan.renameColumns.map fun (old, new) =>
    .alterTable (tablePath plan) [.renameColumn old new]

/-! ## The table as a whole -/

/-- Drops the table. -/
def dropTable (plan : Plan) (ifExists : Bool) : Except CompileError Statement := do
  checkTable plan
  return .dropTable ifExists (tablePath plan)

/-- Renames the table.  A table stays in its schema unless mysql is given another one. -/
def renameTable (dialect : Dialect) (plan : Plan) : Except CompileError Statement := do
  checkTable plan
  let new ← newName plan
  match dialect with
  | .mysql =>
    let target := if Name.isQualified new then Name.segments new else plan.schema?.toList ++ [new]
    return .renameTable (tablePath plan) target
  | _ => return .alterTable (tablePath plan) [.renameTable (Name.unqualified new)]

end TablePlan.Compile

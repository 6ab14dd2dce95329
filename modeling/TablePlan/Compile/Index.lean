import TablePlan.Compile.PrimaryKey

/-!
# Index statements
-/

namespace TablePlan.Compile

open Sql (Path Statement IndexCreation)

/-- The table as a path. -/
def tablePath (plan : Plan) : Path :=
  Name.segments plan.table

/-- The creation of an index over columns.  Only postgres and sqlite can skip one that exists;
mysql names the access method last, and sqlite has none. -/
def indexCreation (dialect : Dialect) (plan : Plan) (index : Index) (qualifier : String) :
    IndexCreation :=
  { qualifier
    ifNotExists := plan.ifNotExists && dialect != .mysql
    name := plan.indexName index
    table := tablePath plan
    target :=
      match dialect with
      | .postgres => .columns index.method index.columns none
      | .mysql => .columns none index.columns index.method
      | .sqlite => .columns none index.columns none }

/-- A plain index. -/
def plainIndex (dialect : Dialect) (plan : Plan) (index : Index) : Statement :=
  .createIndex (indexCreation dialect plan index "")

/-- A unique index. -/
def uniqueIndex (dialect : Dialect) (plan : Plan) (index : Index) : Statement :=
  .createIndex (indexCreation dialect plan index "UNIQUE ")

/-- A full-text index: over text vectors in postgres, without an access method in mysql, and none
in sqlite. -/
def fullTextIndex? (dialect : Dialect) (plan : Plan) (index : Index) : Option Statement :=
  match dialect with
  | .postgres =>
    some (.createIndex
      { qualifier := ""
        ifNotExists := plan.ifNotExists
        name := plan.indexName index
        table := tablePath plan
        target := .textVectors index.columns })
  | .mysql =>
    some (.createIndex (indexCreation .mysql plan { index with method := none } "FULLTEXT "))
  | .sqlite => none

/-- A primary key added to an existing table.  That of a new table is part of its creation. -/
def addPrimaryKey? (dialect : Dialect) (plan : Plan) (index : Index) :
    Except CompileError (Option Statement) :=
  if plan.creating then .ok none
  else match dialect with
    | .sqlite => .error (.unsupported .sqlite .addPrimaryKey)
    | _ =>
      let key : PrimaryKey := { name := plan.indexName index, columns := index.columns }
      .ok (some (.alterTable (tablePath plan) [.addConstraint (primaryKeyConstraint dialect key)]))

/-- Whether the indexes of a plan are declared inside the creation of its table: mysql cannot
skip an index that exists. -/
def declaresKeysInline (dialect : Dialect) (plan : Plan) : Bool :=
  dialect = .mysql && plan.ifNotExists

/-- The statement of its own that an index gets, if any. -/
def indexStatement? (dialect : Dialect) (plan : Plan) (index : Index) :
    Except CompileError (Option Statement) := do
  checkTable plan
  checkIndex plan index
  match index.kind with
  | .primary => addPrimaryKey? dialect plan index
  | kind =>
    if declaresKeysInline dialect plan then return none
    else match kind with
      | .unique => return some (uniqueIndex dialect plan index)
      | .fullText => return fullTextIndex? dialect plan index
      | _ => return some (plainIndex dialect plan index)

/-- The index that a column asks for by a flag, with the name given for it. -/
def flaggedIndex (dialect : Dialect) (column : Column) (kind : IndexKind) : Index :=
  { kind
    columns := [column.name]
    name :=
      match kind with
      | .unique => column.uniqueName
      | .index => column.indexName
      | _ => if dialect = .mysql then column.indexName else none }

/-- The statement for an index that a column asks for.  In mysql a unique one without a name is
part of the column definition. -/
def columnIndexStatement? (dialect : Dialect) (plan : Plan) (column : Column) (kind : IndexKind) :
    Except CompileError (Option Statement) :=
  if dialect = .mysql && kind = .unique && column.uniqueName.isNone then .ok none
  else indexStatement? dialect plan (flaggedIndex dialect column kind)

/-- The statements for the flags of a column, unique before plain. -/
def columnIndexStatements (dialect : Dialect) (plan : Plan) (column : Column) :
    Except CompileError (List Statement) := do
  let unique ←
    if column.unique then columnIndexStatement? dialect plan column .unique else .ok none
  let plain ← if column.index then columnIndexStatement? dialect plan column .index else .ok none
  return unique.toList ++ plain.toList

/-- The indexes that mysql declares inside the creation of a table: those of named unique flags
and of index flags, column by column, then the declared ones. -/
def inlineIndexes (plan : Plan) : List Index :=
  (plan.columns.flatMap fun column =>
    only (column.unique && column.uniqueName.isSome) (flaggedIndex .mysql column .unique) ++
    only column.index (flaggedIndex .mysql column .index)) ++
  plan.indexes.filter fun index => index.kind != .primary

/-- Those indexes as table elements. -/
def inlineKeys (plan : Plan) : Except CompileError (List Sql.TableElement) :=
  (inlineIndexes plan).mapM fun index => do
    checkIndex plan index
    return .key index.kind (plan.indexName index) index.columns
      (if index.kind = .fullText then none else index.method)

/-! ## Dropping and renaming -/

/-- The path of an index: in the schema of its table. -/
def indexPath (plan : Plan) (name : String) : Path :=
  plan.schema?.toList ++ [name]

/-- Drops one index. -/
def dropIndex (dialect : Dialect) (plan : Plan) (name : String) : Statement :=
  match dialect with
  | .mysql => .alterTable (tablePath plan) [.dropIndex name]
  | _ => .dropIndex (indexPath plan name)

/-- Drops indexes by name. -/
def dropIndexes (dialect : Dialect) (plan : Plan) (names : List String) :
    Except CompileError (List Statement) := do
  checkTable plan
  checkIndexNames plan names
  return names.map (dropIndex dialect plan)

/-- Drops full-text indexes; sqlite never had any. -/
def dropFullTexts (dialect : Dialect) (plan : Plan) : Except CompileError (List Statement) :=
  match dialect with
  | .sqlite => .ok []
  | _ => dropIndexes dialect plan plan.dropFullTexts

/-- Drops the primary key. -/
def dropPrimaryKey (dialect : Dialect) (plan : Plan) : Except CompileError (List Statement) := do
  checkTable plan
  match dialect with
  | .sqlite => .error (.unsupported .sqlite .dropPrimaryKey)
  | .mysql =>
    return plan.dropPrimary.toList.map fun _ => .alterTable (tablePath plan) [.dropPrimaryKey]
  | .postgres =>
    return plan.dropPrimary.toList.map fun name =>
      .alterTable (tablePath plan) [.dropConstraint name]

/-- Renames indexes. -/
def renameIndexes (dialect : Dialect) (plan : Plan) : Except CompileError (List Statement) := do
  checkTable plan
  match dialect with
  | .sqlite => .error (.unsupported .sqlite .renameIndex)
  | .mysql =>
    return plan.renameIndexes.map fun (old, new) =>
      .alterTable (tablePath plan) [.renameIndex old new]
  | .postgres =>
    return plan.renameIndexes.map fun (old, new) => .renameIndex (indexPath plan old) new

end TablePlan.Compile

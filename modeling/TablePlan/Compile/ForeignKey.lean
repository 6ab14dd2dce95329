import TablePlan.Compile.Index

/-!
# Foreign key statements
-/

namespace TablePlan.Compile

open Sql (Constraint Statement)

/-- A foreign key as a constraint. -/
def foreignKeyConstraint (plan : Plan) (key : ForeignKey) : Constraint :=
  .foreignKey (plan.foreignKeyName key) key.column (reference key)

/-- Every foreign key as a constraint inside the creation of the table. -/
def foreignKeyConstraints (plan : Plan) : Except CompileError (List Constraint) :=
  plan.foreignKeys.mapM fun key => do
    checkForeignKey plan key
    return foreignKeyConstraint plan key

/-- Whether a foreign key is declared by the statement that creates its table or its column.  A
creation that may be repeated must not add a constraint twice, and sqlite adds no constraints. -/
def declaresForeignKeyInline (dialect : Dialect) (plan : Plan) (key : ForeignKey) : Bool :=
  match dialect with
  | .sqlite => plan.creating || plan.addedColumns.any fun column => column.name = key.column
  | _ => plan.ifNotExists

/-- The statement of its own that a foreign key gets, if any. -/
def foreignKeyStatement? (dialect : Dialect) (plan : Plan) (key : ForeignKey) :
    Except CompileError (Option Statement) := do
  checkTable plan
  checkForeignKey plan key
  if declaresForeignKeyInline dialect plan key then return none
  match dialect with
  | .sqlite => .error (.unsupported .sqlite .addForeignKey)
  | _ =>
    return some (.alterTable (tablePath plan) [.addConstraint (foreignKeyConstraint plan key)])

/-- Drops foreign keys by name. -/
def dropForeignKeys (dialect : Dialect) (plan : Plan) : Except CompileError (List Statement) := do
  checkTable plan
  match dialect with
  | .sqlite => .error (.unsupported .sqlite .dropForeignKey)
  | .mysql =>
    return plan.dropForeigns.map fun name => .alterTable (tablePath plan) [.dropForeignKey name]
  | .postgres =>
    return plan.dropForeigns.map fun name => .alterTable (tablePath plan) [.dropConstraint name]

end TablePlan.Compile

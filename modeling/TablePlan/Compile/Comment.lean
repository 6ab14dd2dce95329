import TablePlan.Compile.Index

/-!
# Comments and table options
-/

namespace TablePlan.Compile

open Sql (Statement TableOption)

/-- The statements that attach the comments of some columns.  In mysql a comment is part of the
column definition, and sqlite has none. -/
def columnComments (dialect : Dialect) (plan : Plan) (columns : List Column) : List Statement :=
  match dialect with
  | .postgres =>
    columns.filterMap fun column =>
      column.comment.map (.commentOnColumn (tablePath plan) column.name)
  | _ => []

theorem exists_of_mem_columnComments {dialect : Dialect} {plan : Plan} {columns : List Column}
    {statement : Statement} (listed : statement ∈ columnComments dialect plan columns) :
    ∃ column text, statement = .commentOnColumn (tablePath plan) column text := by
  cases dialect with
  | postgres =>
    obtain ⟨column, _, comment⟩ := List.mem_filterMap.mp listed
    obtain ⟨text, _, rfl⟩ := Option.map_eq_some_iff.mp comment
    exact ⟨column.name, text, rfl⟩
  | mysql | sqlite => cases listed

/-- The statement that attaches the comment of the table.  In mysql that of a new table is one of
its options, and sqlite has none. -/
def tableComment (dialect : Dialect) (plan : Plan) : Except CompileError (List Statement) :=
  match dialect with
  | .sqlite => .ok []
  | .mysql => do
    checkTable plan
    if plan.creating then return []
    return plan.comment.toList.map fun text => .alterTable (tablePath plan) [.setComment text]
  | .postgres => do
    checkTable plan
    return plan.comment.toList.map (.commentOnTable (tablePath plan))

/-- The options of a new table; only mysql has them. -/
def tableOptions (dialect : Dialect) (plan : Plan) : List TableOption :=
  match dialect with
  | .mysql =>
    plan.engine.toList.map .engine ++ plan.charset.toList.map .charset ++
      plan.collation.toList.map .collation ++ plan.comment.toList.map .comment
  | _ => []

end TablePlan.Compile

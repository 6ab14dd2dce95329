import TablePlan.Compile.Table

/-!
# From a plan to its statements

The commands of a plan are carried out one after the other; the first fault ends the compilation,
and no statement is given out then.
-/

namespace TablePlan

namespace Compile

open Sql (Statement)

/-- The indexes and foreign keys that go with the columns of a creation or an addition, in an order
in which each refers only to what is there: the flags of the columns, the declared indexes, the
foreign keys. -/
def definitions (dialect : Dialect) (plan : Plan) : Except CompileError (List Statement) := do
  let columns := if plan.creating then plan.columns else plan.addedColumns
  let flagged ← columns.mapM (columnIndexStatements dialect plan)
  let declared ← plan.indexes.mapM (indexStatement? dialect plan)
  let foreign ← plan.foreignKeys.mapM (foreignKeyStatement? dialect plan)
  return flagged.flatten ++ declared.flatMap Option.toList ++ foreign.flatMap Option.toList

/-- The statements of one command. -/
def command (dialect : Dialect) (plan : Plan) : Command → Except CompileError (List Statement)
  | .create => do return (← createTable dialect plan false) ++ (← definitions dialect plan)
  | .createIfNotExists => do
    return (← createTable dialect plan true) ++ (← definitions dialect plan)
  | .add => do return (← addColumns dialect plan) ++ (← definitions dialect plan)
  | .change => changeColumns dialect plan
  | .drop => do return [← dropTable plan false]
  | .dropIfExists => do return [← dropTable plan true]
  | .rename => do return [← renameTable dialect plan]
  | .dropColumn => dropColumns dialect plan
  | .renameColumn => renameColumns plan
  | .dropIndex => dropIndexes dialect plan plan.dropIndexes
  | .dropUnique => dropIndexes dialect plan plan.dropUniques
  | .dropFullText => dropFullTexts dialect plan
  | .dropPrimary => dropPrimaryKey dialect plan
  | .renameIndex => renameIndexes dialect plan
  | .dropForeign => dropForeignKeys dialect plan
  | .comment => tableComment dialect plan

end Compile

namespace Plan

/-- The statements of a plan, in order. -/
def statements (dialect : Dialect) (plan : Plan) : Except CompileError (List Sql.Statement) := do
  let parts ← plan.commands.mapM (Compile.command dialect plan)
  return parts.flatten

/-- The statements of a plan as text. -/
def toSql (dialect : Dialect) (plan : Plan) : Except CompileError (List String) := do
  let statements ← plan.statements dialect
  return statements.map (Sql.Statement.text dialect)

end Plan

end TablePlan

import TablePlan.Name
import TablePlan.Sql.Rendering

/-!
# Queries for what exists

Each query has a row exactly when the table, or the column, is there.
-/

namespace TablePlan.Compile

open Sql (Piece Query)

/-- The schema in which a table is looked for: its own, or the current one. -/
def schemaPiece (current : String) (table : String) : Piece :=
  match Name.schema? table with
  | none => .bare current
  | some schema => .literal schema

/-- The conditions that a table of the information schema is the one meant. -/
def tableConditions (current : String) (table : String) : List (String × Piece) :=
  [("table_schema", schemaPiece current table), ("table_name", .literal (Name.unqualified table))]

/-- The expression for the current schema. -/
def currentSchema : Dialect → String
  | .mysql => "DATABASE()"
  | _ => "current_schema()"

/-- Whether a table exists. -/
def tableQuery (dialect : Dialect) (table : String) : Query :=
  match dialect with
  | .sqlite =>
    { source := [.bare "sqlite_master"]
      conditions := [("type", .literal "table"), ("name", .literal table)] }
  | _ =>
    { source := [.bare "information_schema.tables"]
      conditions := tableConditions (currentSchema dialect) table }

/-- Whether a table has a column. -/
def columnQuery (dialect : Dialect) (table column : String) : Query :=
  match dialect with
  | .sqlite =>
    { source := [.bare "pragma_table_info(", .literal table, .bare ")"]
      conditions := [("name", .literal column)] }
  | _ =>
    { source := [.bare "information_schema.columns"]
      conditions :=
        tableConditions (currentSchema dialect) table ++ [("column_name", .literal column)] }

end TablePlan.Compile

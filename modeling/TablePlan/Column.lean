import TablePlan.Column.Default
import TablePlan.Column.Type

/-!
# Columns

A column of a plan and the modifiers that state its properties.
-/

namespace TablePlan

/-- A column of a plan.  One marked `change` stands for a new definition of an existing column;
every other one is new. -/
structure Column where
  name : String
  type : ColumnType
  nullable : Bool := false
  defaultValue : Option DefaultValue := none
  comment : Option String := none
  collation : Option String := none
  unsigned : Bool := false
  autoIncrement : Bool := false
  primary : Bool := false
  primaryName : Option String := none
  unique : Bool := false
  uniqueName : Option String := none
  index : Bool := false
  indexName : Option String := none
  change : Bool := false
  deriving DecidableEq, Repr

/-- A property stated of a column after its type. -/
inductive ColumnModifier where
  | nullable
  | default (value : DefaultValue)
  | comment (text : String)
  | collation (name : String)
  | precision (digits : UInt8)
  | unsigned
  | autoIncrement
  | primary
  | primaryNamed (name : String)
  | unique
  | uniqueNamed (name : String)
  | index
  | indexNamed (name : String)
  | change
  deriving DecidableEq, Repr

namespace ColumnModifier

/-- The default is an SQL expression. -/
abbrev defaultExpression (sql : String) : ColumnModifier := .default (.expression sql)

/-- The default is the time of the insertion. -/
abbrev useCurrent : ColumnModifier := defaultExpression "CURRENT_TIMESTAMP"

/-- Flags are only ever set; of the other properties the last word counts.  An auto-incrementing
column is part of the primary key, and naming a key or an index asks for it. -/
def apply (modifier : ColumnModifier) (column : Column) : Column :=
  match modifier with
  | .nullable => { column with nullable := true }
  | .default value => { column with defaultValue := some value }
  | .comment text => { column with comment := some text }
  | .collation name => { column with collation := some name }
  | .precision digits => { column with type := column.type.withPrecision digits }
  | .unsigned => { column with unsigned := true }
  | .autoIncrement => { column with autoIncrement := true, primary := true }
  | .primary => { column with primary := true }
  | .primaryNamed name => { column with primary := true, primaryName := some name }
  | .unique => { column with unique := true }
  | .uniqueNamed name => { column with unique := true, uniqueName := some name }
  | .index => { column with index := true }
  | .indexNamed name => { column with index := true, indexName := some name }
  | .change => { column with change := true }

end ColumnModifier

/-- A column with its properties stated in order. -/
def Column.declare (name : String) (type : ColumnType) (modifiers : List ColumnModifier) : Column :=
  modifiers.foldl (fun column modifier => modifier.apply column) { name, type }

end TablePlan

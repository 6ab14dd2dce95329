import TablePlan.Plan

/-!
# Steps

A plan is built by a sequence of steps.  Each step states one thing; the names below `Step` that
are no constructors are shorthands for usual statements.
-/

namespace TablePlan

/-- One statement about the table. -/
inductive Step where
  | create
  | createIfNotExists
  | drop
  | dropIfExists
  | rename (newName : String)
  | engine (name : String)
  | charset (name : String)
  | collation (name : String)
  | comment (text : String)
  | column (name : String) (type : ColumnType) (modifiers : List ColumnModifier)
  | index (kind : IndexKind) (columns : List String) (modifiers : List IndexModifier)
  | foreignKey (column : String) (modifiers : List ForeignKeyModifier)
  | dropColumn (column : String)
  | renameColumn (old new : String)
  | dropIndex (name : String)
  | dropUnique (name : String)
  | dropFullText (name : String)
  | dropPrimary
  | dropPrimaryNamed (name : String)
  | dropForeign (name : String)
  | renameIndex (old new : String)
  deriving DecidableEq, Repr

namespace Step

/-! ## Shorthands for columns -/

/-- A column of a type that counts up by itself, the primary key of the table. -/
def increments (type : ColumnType) (name : String) (modifiers : List ColumnModifier) : Step :=
  .column name type (.unsigned :: .autoIncrement :: modifiers)

/-- A column of a type without negative numbers. -/
def unsignedColumn (type : ColumnType) (name : String) (modifiers : List ColumnModifier) : Step :=
  .column name type (.unsigned :: modifiers)

/-- The conventional primary key, `id`. -/
def id (modifiers : List ColumnModifier) : Step :=
  increments .bigInteger "id" modifiers

/-- A column for the `id` of a row of another table. -/
def foreignId (name : String) (modifiers : List ColumnModifier) : Step :=
  unsignedColumn .bigInteger name modifiers

/-- The time at which a row was marked as deleted. -/
def softDeletes (modifiers : List ColumnModifier) : Step :=
  .column "deleted_at" (.timestamp none) (.nullable :: modifiers)

/-- The times at which a row was created and last updated, with a time type of choice. -/
def timestamps (type : ColumnType) : List Step :=
  [.column "created_at" type [.nullable], .column "updated_at" type [.nullable]]

/-! ## Shorthands for drops -/

/-- Drops several columns. -/
def dropColumns (columns : List String) : List Step :=
  columns.map .dropColumn

/-- Drops the columns of `timestamps`. -/
def dropTimestamps : List Step :=
  dropColumns ["created_at", "updated_at"]

/-- Drops the column of `softDeletes`. -/
def dropSoftDeletes : Step :=
  .dropColumn "deleted_at"

end Step

namespace Plan

/-- The plan after one more statement.  A column, an index or a foreign key joins the others; a
drop or a rename joins those of its kind and asks for its command. -/
def apply (plan : Plan) : Step → Plan
  | .create => plan.request .create
  | .createIfNotExists => plan.request .createIfNotExists
  | .drop => plan.request .drop
  | .dropIfExists => plan.request .dropIfExists
  | .rename newName => { plan with newName := some newName }.request .rename
  | .engine name => { plan with engine := some name }
  | .charset name => { plan with charset := some name }
  | .collation name => { plan with collation := some name }
  | .comment text => { plan with comment := some text }.request .comment
  | .column name type modifiers =>
    { plan with columns := plan.columns ++ [Column.declare name type modifiers] }
  | .index kind columns modifiers =>
    { plan with indexes := plan.indexes ++ [Index.declare kind columns modifiers] }
  | .foreignKey column modifiers =>
    { plan with foreignKeys := plan.foreignKeys ++ [ForeignKey.declare column modifiers] }
  | .dropColumn column =>
    { plan with dropColumns := plan.dropColumns ++ [column] }.request .dropColumn
  | .renameColumn old new =>
    { plan with renameColumns := plan.renameColumns ++ [(old, new)] }.request .renameColumn
  | .dropIndex name => { plan with dropIndexes := plan.dropIndexes ++ [name] }.request .dropIndex
  | .dropUnique name => { plan with dropUniques := plan.dropUniques ++ [name] }.request .dropUnique
  | .dropFullText name =>
    { plan with dropFullTexts := plan.dropFullTexts ++ [name] }.request .dropFullText
  | .dropPrimary =>
    { plan with dropPrimary := some (Name.primaryKey plan.table) }.request .dropPrimary
  | .dropPrimaryNamed name => { plan with dropPrimary := some name }.request .dropPrimary
  | .dropForeign name =>
    { plan with dropForeigns := plan.dropForeigns ++ [name] }.request .dropForeign
  | .renameIndex old new =>
    { plan with renameIndexes := plan.renameIndexes ++ [(old, new)] }.request .renameIndex

/-- The plan of a sequence of statements about a table. -/
def build (table : String) (steps : List Step) : Plan :=
  steps.foldl apply { table }

@[simp] theorem build_nil (table : String) : build table [] = { table } := rfl

/-- Building goes on from where it stopped. -/
theorem build_append (table : String) (first second : List Step) :
    build table (first ++ second) = second.foldl apply (build table first) := by
  simp [build]

/-- No statement changes which table the plan is about. -/
@[simp] theorem table_apply (plan : Plan) (step : Step) : (plan.apply step).table = plan.table := by
  cases step <;> simp only [apply, request] <;> split <;> rfl

@[simp] theorem table_build (table : String) (steps : List Step) :
    (build table steps).table = table := by
  have kept : ∀ plan : Plan, (steps.foldl apply plan).table = plan.table := by
    intro plan
    induction steps generalizing plan with
    | nil => rfl
    | cons step rest ih => simp [ih]
  exact kept { table }

end Plan

end TablePlan

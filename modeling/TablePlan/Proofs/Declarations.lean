import TablePlan.Proofs.Commands

/-!
# What statements declare

The indexes, foreign keys and comments of a plan reach the database in several ways: by statements
of their own, inside the creation of the table, or inside the definition of a column.  Here they are
gathered from all statements, however they are put, and each stage of the compilation is shown to
declare its share (`declared_declaringOutput`).
-/

namespace TablePlan

namespace Sql

/-! ## Declarations -/

/-- An index as it is declared; a unique column declares one without a name. -/
structure IndexDeclaration where
  kind : IndexKind
  name : Option String
  columns : List String
  deriving DecidableEq, Repr

/-- A foreign key as it is declared; one in the definition of a column has no name. -/
structure ForeignKeyDeclaration where
  name : Option String
  column : String
  target : Reference
  deriving DecidableEq, Repr

/-- Declarations of each kind, in the order in which they are made.  A comment on a column comes
with the name of the column. -/
@[ext]
structure Declared where
  foreignKeys : List ForeignKeyDeclaration := []
  indexes : List IndexDeclaration := []
  columnComments : List (String × String) := []
  tableComments : List String := []
  deriving DecidableEq, Repr

namespace Declared

instance : Append Declared where
  append first second :=
    { foreignKeys := first.foreignKeys ++ second.foreignKeys
      indexes := first.indexes ++ second.indexes
      columnComments := first.columnComments ++ second.columnComments
      tableComments := first.tableComments ++ second.tableComments }

@[simp] theorem foreignKeys_append (first second : Declared) :
    (first ++ second).foreignKeys = first.foreignKeys ++ second.foreignKeys := rfl

@[simp] theorem indexes_append (first second : Declared) :
    (first ++ second).indexes = first.indexes ++ second.indexes := rfl

@[simp] theorem columnComments_append (first second : Declared) :
    (first ++ second).columnComments = first.columnComments ++ second.columnComments := rfl

@[simp] theorem tableComments_append (first second : Declared) :
    (first ++ second).tableComments = first.tableComments ++ second.tableComments := rfl

@[simp] theorem empty_append (declared : Declared) : ({} : Declared) ++ declared = declared := rfl

@[simp] theorem append_empty (declared : Declared) : declared ++ ({} : Declared) = declared := by
  ext1 <;> simp

theorem append_assoc (first second third : Declared) :
    first ++ second ++ third = first ++ (second ++ third) := by
  ext1 <;> simp

variable {α β : Type}

/-- All that the members of a list declare, one after the other. -/
def gather (parts : α → Declared) : List α → Declared
  | [] => {}
  | a :: rest => parts a ++ gather parts rest

@[simp] theorem gather_nil (parts : α → Declared) : gather parts [] = {} := rfl

@[simp] theorem gather_cons (parts : α → Declared) (a : α) (rest : List α) :
    gather parts (a :: rest) = parts a ++ gather parts rest := rfl

@[simp] theorem gather_append (parts : α → Declared) (first second : List α) :
    gather parts (first ++ second) = gather parts first ++ gather parts second := by
  induction first with
  | nil => rfl
  | cons a rest ih => rw [List.cons_append, gather_cons, gather_cons, ih, append_assoc]

@[simp] theorem gather_map (parts : β → Declared) (f : α → β) (list : List α) :
    gather parts (list.map f) = gather (fun a => parts (f a)) list := by
  induction list with
  | nil => rfl
  | cons a rest ih => rw [List.map_cons, gather_cons, gather_cons, ih]

theorem gather_eq_empty {parts : α → Declared} {list : List α}
    (silent : ∀ a ∈ list, parts a = {}) : gather parts list = {} := by
  induction list with
  | nil => rfl
  | cons a rest ih =>
    obtain ⟨first, others⟩ := List.forall_mem_cons.mp silent
    rw [gather_cons, first, ih others, empty_append]

theorem foreignKeys_gather (parts : α → Declared) (list : List α) :
    (gather parts list).foreignKeys = list.flatMap fun a => (parts a).foreignKeys := by
  induction list with
  | nil => rfl
  | cons a rest ih => rw [gather_cons, foreignKeys_append, ih, List.flatMap_cons]

theorem indexes_gather (parts : α → Declared) (list : List α) :
    (gather parts list).indexes = list.flatMap fun a => (parts a).indexes := by
  induction list with
  | nil => rfl
  | cons a rest ih => rw [gather_cons, indexes_append, ih, List.flatMap_cons]

theorem columnComments_gather (parts : α → Declared) (list : List α) :
    (gather parts list).columnComments = list.flatMap fun a => (parts a).columnComments := by
  induction list with
  | nil => rfl
  | cons a rest ih => rw [gather_cons, columnComments_append, ih, List.flatMap_cons]

theorem tableComments_gather (parts : α → Declared) (list : List α) :
    (gather parts list).tableComments = list.flatMap fun a => (parts a).tableComments := by
  induction list with
  | nil => rfl
  | cons a rest ih => rw [gather_cons, tableComments_append, ih, List.flatMap_cons]

end Declared

open Declared (gather)

/-- What a clause declares of its column. -/
def ColumnClause.declared (column : String) : ColumnClause → Declared
  | .unique => { indexes := [{ kind := .unique, name := none, columns := [column] }] }
  | .references target => { foreignKeys := [{ name := none, column, target }] }
  | .comment text => { columnComments := [(column, text)] }
  | _ => {}

/-- What the definition of a column declares of itself. -/
def ColumnDefinition.declared (definition : ColumnDefinition) : Declared :=
  gather (ColumnClause.declared definition.name) definition.clauses

/-- The foreign key of a constraint, if it is one. -/
def Constraint.declared : Constraint → Declared
  | .foreignKey name column target => { foreignKeys := [{ name := some name, column, target }] }
  | .primaryKey .. => {}

/-- What an element of a new table declares. -/
def TableElement.declared : TableElement → Declared
  | .column definition => definition.declared
  | .constraint stated => stated.declared
  | .key kind name columns _ => { indexes := [{ kind, name := some name, columns }] }

/-- What an option of a new table declares. -/
def TableOption.declared : TableOption → Declared
  | .comment text => { tableComments := [text] }
  | _ => {}

/-- What an action declares. -/
def Alteration.declared : Alteration → Declared
  | .addColumn definition | .modifyColumn definition => definition.declared
  | .addConstraint stated => stated.declared
  | .setComment text => { tableComments := [text] }
  | _ => {}

/-- The declaration of an index that is created, its kind read off its words. -/
def IndexCreation.declaration (index : IndexCreation) : IndexDeclaration :=
  match index.target with
  | .textVectors covered => { kind := .fullText, name := some index.name, columns := covered }
  | .columns _ covered _ =>
    { kind :=
        if index.qualifier = "UNIQUE " then .unique
        else if index.qualifier = "FULLTEXT " then .fullText
        else .index
      name := some index.name
      columns := covered }

namespace Statement

/-- What a statement declares, in whatever way. -/
def declared : Statement → Declared
  | .createTable _ _ elements options =>
    gather TableElement.declared elements ++ gather TableOption.declared options
  | .alterTable _ alterations => gather Alteration.declared alterations
  | .createIndex index => { indexes := [index.declaration] }
  | .commentOnTable _ text => { tableComments := [text] }
  | .commentOnColumn _ column text => { columnComments := [(column, text)] }
  | _ => {}

/-- Whether a statement creates a table. -/
def createsTable : Statement → Bool
  | .createTable .. => true
  | _ => false

/-- Whether a statement creates an index or adds a foreign key to a table. -/
def isSeparate : Statement → Bool
  | .createIndex _ => true
  | .alterTable _ alterations =>
    alterations.any fun alteration => !alteration.declared.foreignKeys.isEmpty
  | _ => false

theorem isSeparate_alterTable (table : Path) {alterations : List Alteration} :
    (alterTable table alterations).isSeparate = false ↔
      (gather Alteration.declared alterations).foreignKeys = [] := by
  rw [Declared.foreignKeys_gather, List.flatMap_eq_nil_iff, isSeparate, List.any_eq_false]
  simp

/-- Statements that only drop or rename declare nothing. -/
theorem declared_of_declaresNothing {statement : Statement} (nothing : statement.DeclaresNothing) :
    statement.declared = {} ∧ statement.isSeparate = false := by
  cases statement with
  | createTable | createIndex | commentOnTable | commentOnColumn => exact nothing.elim
  | alterTable table alterations =>
    have each : ∀ alteration ∈ alterations, alteration.declared = {} := by
      intro alteration member
      have nothing : alteration.DeclaresNothing := nothing alteration member
      cases alteration with
      | addColumn | modifyColumn | addConstraint | setComment => exact nothing.elim
      | _ => rfl
    have none := Declared.gather_eq_empty each
    exact ⟨none, (isSeparate_alterTable table).mpr (by rw [none])⟩
  | _ => exact ⟨rfl, rfl⟩

theorem isSeparate_of_foreignKeys {statement : Statement}
    (declares : statement.declared.foreignKeys ≠ []) (other : statement.createsTable = false) :
    statement.isSeparate = true := by
  cases statement with
  | createTable => cases other
  | alterTable table alterations =>
    rw [← Bool.not_eq_false]
    intro joint
    exact declares ((isSeparate_alterTable table).mp joint)
  | _ => exact absurd rfl declares

end Statement

end Sql

namespace Compile

open Sql
open Sql.Declared (gather)

/-! ## Columns -/

/-- The unique index that a column declares of itself: in mysql the unnamed one of a new column. -/
def inlineUniques (dialect : Dialect) (column : Column) : List IndexDeclaration :=
  only (dialect = .mysql && column.unique && column.uniqueName.isNone && !column.change)
    { kind := .unique, name := none, columns := [column.name] }

/-- The comment of a column, with its name. -/
def commentOf (column : Column) : List (String × String) :=
  column.comment.toList.map fun text => (column.name, text)

theorem gather_only {α : Type} (parts : α → Declared) (wanted : Bool) (a : α) :
    gather parts (only wanted a) = if wanted then parts a else {} := by
  cases wanted <;> simp [only]

/-- In postgres indexes, foreign keys and comments are not part of a column definition. -/
theorem declared_postgresClauses (name : String) (column : Column) :
    gather (ColumnClause.declared name) (postgresClauses column) = {} := by
  have collation : gather (ColumnClause.declared name)
      (column.collation.toList.map fun collation => .collate (.name collation)) = {} := by
    cases column.collation <;> rfl
  have notNull : gather (ColumnClause.declared name) (only (!column.nullable) .notNull) = {} := by
    cases column.nullable <;> rfl
  have value : gather (ColumnClause.declared name)
      (if column.autoIncrement then [] else defaultClause .postgres column) = {} := by
    unfold defaultClause
    cases column.autoIncrement <;> cases column.defaultValue <;> rfl
  have check : gather (ColumnClause.declared name) (enumerationCheck? column).toList = {} := by
    unfold enumerationCheck?
    split <;> rfl
  unfold postgresClauses
  simp only [Declared.gather_append, collation, notNull, value, check, Declared.append_empty]

theorem declared_mysqlClauses (column : Column) :
    gather (ColumnClause.declared column.name) (mysqlClauses column) =
      { indexes := inlineUniques .mysql column, columnComments := commentOf column } := by
  have silent (wanted : Bool) (clause : ColumnClause) (nothing : clause.declared column.name = {}) :
      gather (ColumnClause.declared column.name) (only wanted clause) = {} := by
    rw [gather_only, nothing, ite_self]
  have collation : gather (ColumnClause.declared column.name)
      (column.collation.toList.map fun collation => .collate (.verbatim collation)) = {} := by
    cases column.collation <;> rfl
  have nullability : gather (ColumnClause.declared column.name)
      [if column.nullable then .null else .notNull] = {} := by
    cases column.nullable <;> rfl
  have value : gather (ColumnClause.declared column.name) (defaultClause .mysql column) = {} := by
    unfold defaultClause
    cases column.defaultValue <;> rfl
  have unique : gather (ColumnClause.declared column.name)
      (only (column.unique && column.uniqueName.isNone && !column.change) .unique) =
      { indexes := inlineUniques .mysql column } := by
    unfold inlineUniques
    cases column.unique <;> cases column.uniqueName.isNone <;> cases column.change <;> rfl
  have comment : gather (ColumnClause.declared column.name) (column.comment.toList.map .comment) =
      { columnComments := commentOf column } := by
    unfold commentOf
    cases column.comment <;> rfl
  unfold mysqlClauses
  simp only [Declared.gather_append, collation, nullability, value, unique, comment,
    silent _ .unsigned rfl, silent _ .autoIncrement rfl, Declared.empty_append]
  ext1 <;> simp

/-- What the definition of a column declares of itself, all in mysql and nothing in postgres. -/
def inlineDeclared (dialect : Dialect) (column : Column) : Declared :=
  if dialect = .mysql then
    { indexes := inlineUniques .mysql column, columnComments := commentOf column }
  else {}

section
variable {dialect : Dialect} (notSqlite : dialect ≠ .sqlite) (plan : Plan)
include notSqlite

theorem declared_columnDefinition (column : Column) :
    (columnDefinition dialect plan column).declared = inlineDeclared dialect column := by
  cases dialect with
  | postgres => exact declared_postgresClauses column.name column
  | mysql => exact declared_mysqlClauses column
  | sqlite => exact absurd rfl notSqlite

theorem gather_inlineDeclared (columns : List Column) :
    gather (inlineDeclared dialect) columns =
      { indexes := columns.flatMap (inlineUniques dialect)
        columnComments := if dialect = .mysql then columns.flatMap commentOf else [] } := by
  cases dialect with
  | sqlite => exact absurd rfl notSqlite
  | mysql =>
    have inside (column : Column) : inlineDeclared .mysql column =
      { indexes := inlineUniques .mysql column, columnComments := commentOf column } := rfl
    ext1 <;>
      simp [Declared.foreignKeys_gather, Declared.indexes_gather, Declared.columnComments_gather,
        Declared.tableComments_gather, inside]
  | postgres =>
    have noIndex : columns.flatMap (inlineUniques .postgres) = [] :=
      List.flatMap_eq_nil_iff.mpr fun _ _ => rfl
    rw [noIndex]
    exact Declared.gather_eq_empty fun _ _ => rfl

theorem declared_columnComments (columns : List Column) :
    gather Statement.declared (columnComments dialect plan columns) =
      { columnComments := if dialect = .mysql then [] else columns.flatMap commentOf } := by
  cases dialect with
  | sqlite => exact absurd rfl notSqlite
  | mysql => rfl
  | postgres =>
    have statements : columnComments .postgres plan columns =
        columns.flatMap fun column =>
          column.comment.toList.map (.commentOnColumn (tablePath plan) column.name) := by
      simp [columnComments, List.filterMap_eq_flatMap_toList, Option.toList_map]
    have comments : columns.flatMap commentOf = columns.flatMap fun column =>
      column.comment.toList.map fun text => (column.name, text) := rfl
    rw [statements, comments]
    ext1 <;>
      simp [Declared.foreignKeys_gather, Declared.indexes_gather, Declared.columnComments_gather,
        Declared.tableComments_gather, List.flatMap_assoc, List.flatMap_map, Statement.declared,
        ← List.map_eq_flatMap]

end

/-! ## Creating -/

/-- A foreign key of the plan as it is declared by its name. -/
def foreignKeyDeclaration (plan : Plan) (key : ForeignKey) : ForeignKeyDeclaration :=
  { name := some (plan.foreignKeyName key), column := key.column, target := reference key }

/-- An index of the plan as it is declared by its name. -/
def indexDeclaration (plan : Plan) (index : Index) : IndexDeclaration :=
  { kind := index.kind, name := some (plan.indexName index), columns := index.columns }

section
variable {dialect : Dialect} (notSqlite : dialect ≠ .sqlite) (plan : Plan)

theorem declared_primaryKeyElementsOutput :
    gather TableElement.declared (primaryKeyElementsOutput dialect plan) = {} := by
  apply Declared.gather_eq_empty
  intro element listed
  unfold primaryKeyElementsOutput at listed
  split at listed
  · cases listed
  · obtain ⟨key, _, rfl⟩ := List.mem_map.mp listed
    rfl

theorem declared_inlineKeysOutput :
    gather TableElement.declared (inlineKeysOutput dialect plan) =
      { indexes := if declaresKeysInline dialect plan then
          (inlineIndexes plan).map (indexDeclaration plan) else [] } := by
  unfold inlineKeysOutput
  split
  · ext1 <;>
      simp [Declared.foreignKeys_gather, Declared.indexes_gather, Declared.columnComments_gather,
        Declared.tableComments_gather, TableElement.declared, keyElement, indexDeclaration,
        ← List.map_eq_flatMap]
  · rfl

theorem declared_tableOptions :
    gather TableOption.declared (tableOptions dialect plan) =
      { tableComments := if dialect = .mysql then plan.comment.toList else [] } := by
  cases dialect with
  | mysql =>
    unfold tableOptions
    cases plan.engine <;> cases plan.charset <;> cases plan.collation <;> cases plan.comment <;> rfl
  | postgres | sqlite => rfl

include notSqlite

theorem declared_inlineForeignKeysOutput :
    gather TableElement.declared ((inlineForeignKeysOutput dialect plan).map .constraint) =
      { foreignKeys := if plan.ifNotExists then
          plan.foreignKeys.map (foreignKeyDeclaration plan) else [] } := by
  unfold inlineForeignKeysOutput constrainsInline
  cases plan.ifNotExists with
  | false => simp [notSqlite]
  | true =>
    ext1 <;>
      simp [Declared.foreignKeys_gather, Declared.indexes_gather, Declared.columnComments_gather,
        Declared.tableComments_gather, TableElement.declared, foreignKeyConstraint,
        Constraint.declared, foreignKeyDeclaration, ← List.map_eq_flatMap]

/-- The creation of a table declares its inline indexes, the foreign keys if it may be repeated, and
with the statements behind it the comments on all columns. -/
theorem declared_createTableOutput (ifNotExists : Bool) :
    gather Statement.declared (createTableOutput dialect plan ifNotExists) =
      { foreignKeys := if plan.ifNotExists then
          plan.foreignKeys.map (foreignKeyDeclaration plan) else []
        indexes := plan.columns.flatMap (inlineUniques dialect) ++
          if declaresKeysInline dialect plan then
            (inlineIndexes plan).map (indexDeclaration plan) else []
        columnComments := plan.columns.flatMap commentOf
        tableComments := if dialect = .mysql then plan.comment.toList else [] } := by
  have definitions : gather TableElement.declared
      (plan.columns.map fun column => .column (columnDefinition dialect plan column)) =
      gather (inlineDeclared dialect) plan.columns := by
    rw [Declared.gather_map]
    congr 1
    funext column
    exact declared_columnDefinition notSqlite plan column
  unfold createTableOutput tableConstraintsOutput
  simp only [Declared.gather_cons, Statement.declared, Declared.gather_append, definitions,
    gather_inlineDeclared notSqlite, declared_primaryKeyElementsOutput, declared_inlineKeysOutput,
    declared_inlineForeignKeysOutput notSqlite, declared_tableOptions,
    declared_columnComments notSqlite]
  ext1
  · simp
  · simp
  · by_cases mysql : dialect = .mysql <;> simp [mysql]
  · simp

/-! ## Changing and adding -/

theorem gather_definitions (columns : List Column) (alter : ColumnDefinition → Alteration)
    (states : ∀ definition, (alter definition).declared = definition.declared) :
    gather Alteration.declared
        (columns.map fun column => alter (columnDefinition dialect plan column)) =
      gather (inlineDeclared dialect) columns := by
  rw [Declared.gather_map]
  congr 1
  funext column
  rw [states, declared_columnDefinition notSqlite]

/-- The addition of columns declares their inline indexes and comments on them. -/
theorem declared_addColumnsOutput :
    gather Statement.declared (addColumnsOutput dialect plan) =
      { indexes := plan.addedColumns.flatMap (inlineUniques dialect)
        columnComments := plan.addedColumns.flatMap commentOf } := by
  unfold addColumnsOutput columnAdditions
  rw [if_neg notSqlite]
  split
  · next none =>
    rw [List.isEmpty_iff.mp none]
    rfl
  · have primary : gather Alteration.declared ((addedPrimaryKey? plan).toList.map fun key =>
        .addConstraint (primaryKeyConstraint dialect key)) = {} := by
      cases addedPrimaryKey? plan <;> rfl
    simp only [Declared.gather_cons, Statement.declared, Declared.gather_append,
      gather_definitions notSqlite plan plan.addedColumns .addColumn (fun _ => rfl), primary,
      gather_inlineDeclared notSqlite, declared_columnComments notSqlite, Declared.append_empty]
    ext1
    · simp
    · simp
    · by_cases mysql : dialect = .mysql <;> simp [mysql]
    · simp

/-- The change of columns comments on them and declares nothing else. -/
theorem declared_changeColumnsOutput :
    gather Statement.declared (changeColumnsOutput dialect plan) =
      { columnComments := plan.changedColumns.flatMap commentOf } := by
  cases dialect with
  | sqlite => exact absurd rfl notSqlite
  | mysql =>
    rw [changeColumnsOutput_mysql]
    by_cases none : plan.changedColumns.isEmpty = true
    · rw [if_pos none, List.isEmpty_iff.mp none]
      rfl
    · rw [if_neg none]
      have unique : plan.changedColumns.flatMap (inlineUniques .mysql) = [] := by
        rw [List.flatMap_eq_nil_iff]
        intro column member
        have change : column.change = true := (List.mem_filter.mp member).2
        simp [inlineUniques, change, only]
      rw [Declared.gather_cons, Declared.gather_nil, Declared.append_empty, Statement.declared,
        gather_definitions notSqlite plan plan.changedColumns .modifyColumn (fun _ => rfl),
        gather_inlineDeclared notSqlite, unique, if_pos rfl]
  | postgres =>
    have changes : gather Statement.declared (plan.changedColumns.map (changeColumn plan)) = {} := by
      rw [Declared.gather_map]
      apply Declared.gather_eq_empty
      intro column _
      unfold changeColumn
      cases column.nullable <;> cases column.autoIncrement <;> cases column.defaultValue <;> rfl
    unfold changeColumnsOutput
    rw [Declared.gather_append, changes, Declared.empty_append, declared_columnComments notSqlite,
      if_neg (by decide : ¬ Dialect.postgres = .mysql)]

end

end Compile

end TablePlan

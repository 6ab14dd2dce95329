import Mathlib.Data.List.Nodup
import TablePlan.Proofs.DeclaredOnce
import TablePlan.Proofs.StatementOrder
import TablePlan.Proofs.WellFormed

/-!
# Unique columns of a new table

A column that is flagged as unique is made so by its own definition, by a key inside the creation of
the table, or by an index behind it.  Which of them it is depends on the dialect, on whether the
flag comes with a name, and on whether the creation may be repeated.  Main statement: one of them is
there for each flag, unless in mysql a flag without a name stands on a column that is marked as
changed (`unique_columns_toSql`).
-/

namespace TablePlan

namespace Sql

/-- Whether an element of a new table makes a column unique: its definition, or a key of that column
alone. -/
def TableElement.makesUnique (column : String) : TableElement → Bool
  | .column definition => definition.name = column && definition.clauses.contains .unique
  | .key kind _ columns _ => kind = .unique && columns = [column]
  | .constraint _ => false

/-- Whether a statement makes a column unique: the creation of its table, or of an index of that
column alone. -/
def Statement.makesUnique (column : String) : Statement → Bool
  | .createTable _ _ elements _ => elements.any (TableElement.makesUnique column)
  | .createIndex index => index.declaration.kind = .unique && index.declaration.columns = [column]
  | _ => false

theorem TableElement.declared_of_makesUnique {column : String} {element : TableElement}
    (makes : element.makesUnique column = true) :
    ∃ index ∈ element.declared.indexes, index.kind = .unique ∧ index.columns = [column] := by
  cases element with
  | constraint => cases makes
  | column definition =>
    simp only [makesUnique, Bool.and_eq_true, decide_eq_true_eq, List.contains_iff_mem] at makes
    obtain ⟨rfl, unique⟩ := makes
    refine ⟨{ kind := .unique, name := none, columns := [definition.name] }, ?_, rfl, rfl⟩
    rw [declared, ColumnDefinition.declared, Declared.indexes_gather]
    exact List.mem_flatMap.mpr ⟨.unique, unique, List.mem_singleton.mpr rfl⟩
  | key kind name columns method =>
    simp only [makesUnique, Bool.and_eq_true, decide_eq_true_eq] at makes
    exact ⟨_, List.mem_singleton.mpr rfl, makes⟩

/-- What makes a column unique declares a unique index of that column alone. -/
theorem Statement.declared_of_makesUnique {column : String} {statement : Statement}
    (makes : statement.makesUnique column = true) :
    ∃ index ∈ statement.declared.indexes, index.kind = .unique ∧ index.columns = [column] := by
  cases statement with
  | createTable ifNotExists table elements options =>
    obtain ⟨element, listed, unique⟩ := List.any_eq_true.mp makes
    obtain ⟨index, declares, spec⟩ := TableElement.declared_of_makesUnique unique
    refine ⟨index, ?_, spec⟩
    rw [declared, Declared.indexes_append, Declared.indexes_gather]
    exact List.mem_append_left _ (List.mem_flatMap.mpr ⟨element, listed, declares⟩)
  | createIndex index =>
    simp only [makesUnique, Bool.and_eq_true, decide_eq_true_eq] at makes
    exact ⟨_, List.mem_singleton.mpr rfl, makes⟩
  | _ => cases makes

end Sql

namespace Compile

open Sql

section
variable {dialect : Dialect} {plan : Plan} {asked : Command} (creation : asked.isCreate = true)
include creation

/-! ## What makes a column unique -/

/-- An element of the new table that makes a column unique does so for its creation. -/
theorem makesUnique_of_element {element : TableElement} {column : String}
    (listed : element ∈
      plan.columns.map (fun column => .column (columnDefinition dialect plan column)) ++
        tableConstraintsOutput dialect plan)
    (makes : element.makesUnique column = true) :
    ∃ statement ∈ commandOutput dialect plan asked,
      statement.table? = some (tablePath plan) ∧ statement.makesUnique column = true := by
  obtain ⟨ifNotExists, output⟩ := commandOutput_of_isCreate dialect plan creation
  rw [output]
  exact ⟨_, List.mem_append_left _ List.mem_cons_self, rfl,
    List.any_eq_true.mpr ⟨element, listed, makes⟩⟩

/-- A unique index makes its column unique, as a key inside the table or by a statement behind. -/
theorem makesUnique_of_mem_separateIndexes (creating : plan.creating = true) {index : Index}
    {column : String} (listed : index ∈ separateIndexes dialect plan) (unique : index.kind = .unique)
    (covers : index.columns = [column]) :
    ∃ statement ∈ commandOutput dialect plan asked,
      statement.table? = some (tablePath plan) ∧ statement.makesUnique column = true := by
  have secondary : (index.kind != .primary) = true := by
    rw [unique]
    rfl
  cases inline : declaresKeysInline dialect plan with
  | true =>
    have mysql : dialect = .mysql := by
      simp only [declaresKeysInline, Bool.and_eq_true, decide_eq_true_eq] at inline
      exact inline.1
    subst mysql
    have key : keyElement plan index ∈ tableConstraintsOutput .mysql plan := by
      have inside : index ∈ inlineIndexes plan := by
        rw [inlineIndexes_eq_filter plan creating]
        exact List.mem_filter.mpr ⟨listed, secondary⟩
      refine List.mem_append_left _ (List.mem_append_right _ ?_)
      rw [inlineKeysOutput, if_pos inline]
      exact List.mem_map_of_mem inside
    refine makesUnique_of_element creation (List.mem_append_right _ key) ?_
    simp [keyElement, TableElement.makesUnique, unique, covers]
  | false =>
    have own : uniqueIndex dialect plan index ∈ definitionsOutput dialect plan := by
      refine List.mem_append_left _ (List.mem_filterMap.mpr ⟨index, listed, ?_⟩)
      simp [indexOutput, inline, indexCreation?, unique]
    obtain ⟨ifNotExists, output⟩ := commandOutput_of_isCreate dialect plan creation
    rw [output]
    refine ⟨_, List.mem_append_right _ own, rfl, ?_⟩
    cases dialect <;>
      simp [uniqueIndex, indexCreation, Statement.makesUnique, IndexCreation.declaration, covers]

/-- The flag of a column makes it unique, unless in mysql it has no name and the column is marked as
changed. -/
theorem makesUnique_of_flag (creating : plan.creating = true) {column : Column}
    (listed : column ∈ plan.columns) (unique : column.unique = true)
    (kept : dialect = .mysql → column.uniqueName = none → column.change = false) :
    ∃ statement ∈ commandOutput dialect plan asked,
      statement.table? = some (tablePath plan) ∧ statement.makesUnique column.name = true := by
  by_cases inside : dialect = .mysql ∧ column.uniqueName = none
  · obtain ⟨rfl, unnamed⟩ := inside
    have new := kept rfl unnamed
    have definition : TableElement.column (columnDefinition .mysql plan column) ∈
        plan.columns.map fun column => .column (columnDefinition .mysql plan column) :=
      List.mem_map_of_mem listed
    refine makesUnique_of_element creation (List.mem_append_left _ definition) ?_
    simp [TableElement.makesUnique, columnDefinition, mysqlClauses, only, unique, unnamed, new]
  · have separate : isSeparateFlag dialect column .unique = true := by
      rw [not_and_or, ← ne_eq column.uniqueName, Option.ne_none_iff_isSome] at inside
      simpa [isSeparateFlag, asksFor, unique] using inside
    have flagged : flaggedIndex dialect column .unique ∈ separateIndexes dialect plan := by
      refine List.mem_append_left _ (List.mem_flatMap.mpr ⟨column, ?_, ?_⟩)
      · rw [flaggedColumns_of_creating plan creating]
        exact listed
      · exact List.mem_append_left _ (mem_only.mpr ⟨separate, rfl⟩)
    exact makesUnique_of_mem_separateIndexes creation creating flagged rfl rfl

end

end Compile

namespace Plan

open Compile
open Sql (Statement IndexDeclaration)
open Sql.Declared (gather)

variable {dialect : Dialect} {plan : Plan}

/-- The indexes that come with a new table: those inside the definitions of columns, and those of
flags and declared indexes. -/
theorem mem_indexes_of_creating (notSqlite : dialect ≠ .sqlite) (order : plan.AsksInOrder)
    (creating : plan.creating = true) {statement : Statement}
    (member : statement ∈ plan.output dialect) {index : IndexDeclaration}
    (declares : index ∈ statement.declared.indexes) :
    index ∈ plan.columns.flatMap (inlineUniques dialect) ++
      (secondaryIndexes dialect plan).map (indexDeclaration plan) := by
  have declaring := congrArg Sql.Declared.indexes (declared_declaringOutput notSqlite plan).1
  have comment := congrArg Sql.Declared.indexes (declared_tableCommentOutput notSqlite plan).1
  rw [flaggedColumns_of_creating plan creating, declaringOutput, if_pos creating] at declaring
  obtain ⟨asked, listed, given⟩ := List.mem_flatMap.mp member
  have requested : asked ∈ plan.requested := commands_of_creating creating ▸ listed
  have gathered : index ∈ (gather Statement.declared (commandOutput dialect plan asked)).indexes := by
    rw [Sql.Declared.indexes_gather]
    exact List.mem_flatMap.mpr ⟨statement, given, declares⟩
  cases asked with
  | create | createIfNotExists =>
    -- Whether the creation may be repeated makes no difference to what it declares.
    have all : index ∈ (gather Statement.declared
        (createTableOutput dialect plan plan.ifNotExists ++ definitionsOutput dialect plan)).indexes :=
      gathered
    rw [declaring] at all
    exact all
  | add => exact absurd requested order.noAddition
  | change => exact absurd requested order.noChange
  | comment =>
    rw [commandOutput, comment] at gathered
    cases gathered
  | _ =>
    rw [(Statement.declared_of_declaresNothing (declaresNothing_commandOutput rfl _ given)).1]
      at declares
    cases declares

/-- A flag without a name that stands on a changed column brings no index in mysql, so a unique index
of that column alone is a declared one. -/
theorem exists_unique_of_mem_indexes (creating : plan.creating = true)
    (distinct : (plan.columns.map Column.name).Nodup) {column : Column}
    (listed : column ∈ plan.columns) (unnamed : column.uniqueName = none)
    (changed : column.change = true) {index : IndexDeclaration}
    (member : index ∈ plan.columns.flatMap (inlineUniques .mysql) ++
      (secondaryIndexes .mysql plan).map (indexDeclaration plan))
    (unique : index.kind = .unique) (covers : index.columns = [column.name]) :
    ∃ stated ∈ plan.indexes, stated.kind = .unique ∧ stated.columns = [column.name] := by
  have same {other : Column} (member : other ∈ plan.columns) (name : [other.name] = [column.name]) :
      other = column :=
    List.inj_on_of_nodup_map distinct member listed (List.singleton_inj.mp name)
  rcases List.mem_append.mp member with inline | separate
  · obtain ⟨other, among, given⟩ := List.mem_flatMap.mp inline
    obtain ⟨flag, rfl⟩ := mem_only.mp given
    cases same among covers
    simp [changed] at flag
  · obtain ⟨stated, secondary, rfl⟩ := List.mem_map.mp separate
    rcases List.mem_append.mp (List.mem_filter.mp secondary).1 with flagged | declared
    · obtain ⟨other, among, given⟩ := List.mem_flatMap.mp flagged
      rw [flaggedColumns_of_creating plan creating] at among
      rcases List.mem_append.mp given with flag | flag
      · obtain ⟨own, rfl⟩ := mem_only.mp flag
        cases same among covers
        simp [isSeparateFlag, unnamed] at own
      · obtain ⟨_, rfl⟩ := mem_only.mp flag
        cases unique
    · exact ⟨stated, declared, unique, covers⟩

/-- A new table has every column unique that is flagged so, however the plan was built, whether the
flag has a name or not, and whether the creation may be repeated or not.  The one exception is mysql:
a flag without a name that stands on a column marked as changed is lost, and the column is unique only
if an index says so. -/
theorem unique_columns_toSql {dialect : Dialect} (table : String) (steps : List Step)
    (creating : (build table steps).creating = true) {texts : List String}
    (compiled : (build table steps).toSql dialect = .ok texts) :
    ∃ statements, (build table steps).statements dialect = .ok statements ∧
      texts = statements.map (Statement.text dialect) ∧
      ∀ column ∈ (build table steps).columns, column.unique = true →
        ((∃ statement ∈ statements, statement.table? = some (Name.segments table) ∧
          statement.makesUnique column.name = true) ↔
        (dialect = .mysql → column.uniqueName = none → column.change = true →
          ∃ index ∈ (build table steps).indexes,
            index.kind = .unique ∧ index.columns = [column.name])) := by
  have order := asksInOrder_build table steps
  have path : tablePath (build table steps) = Name.segments table := by
    rw [tablePath, table_build]
  revert creating compiled order path
  generalize build table steps = plan
  intro creating compiled order path
  obtain ⟨passed, same_output, texts_eq⟩ := statements_of_toSql compiled
  refine ⟨plan.output dialect, same_output, texts_eq, ?_⟩
  intro column listed unique
  rw [← path]
  constructor
  · rintro ⟨statement, member, _, makes⟩ rfl unnamed changed
    obtain ⟨index, declares, kind, covers⟩ := Statement.declared_of_makesUnique makes
    have among := mem_indexes_of_creating (by decide) order creating member declares
    have distinct := (wellFormed_of_verdict passed).distinct
    exact exists_unique_of_mem_indexes creating distinct listed unnamed changed among kind covers
  · intro due
    obtain ⟨asked, requested, creation⟩ := List.any_eq_true.mp creating
    have command : asked ∈ plan.commands := (commands_of_creating creating).symm ▸ requested
    have made : ∃ statement ∈ commandOutput dialect plan asked,
        statement.table? = some (tablePath plan) ∧ statement.makesUnique column.name = true := by
      by_cases lost : dialect = .mysql ∧ column.uniqueName = none ∧ column.change = true
      · obtain ⟨index, stated, kind, covers⟩ := due lost.1 lost.2.1 lost.2.2
        exact makesUnique_of_mem_separateIndexes creation creating
          (List.mem_append_right _ stated) kind covers
      · refine makesUnique_of_flag creation creating listed unique fun mysql unnamed => ?_
        rw [← Bool.not_eq_true]
        exact fun changed => lost ⟨mysql, unnamed, changed⟩
    obtain ⟨statement, given, spec⟩ := made
    exact ⟨statement, List.mem_flatMap.mpr ⟨asked, command, given⟩, spec⟩

/-- The changed column `b` is unique by the index that says so, and the changed column `c` is not. -/
theorem unique_columns_toSql_changed :
    let steps : List Step :=
      [.create, .column "a" .integer [.unique], .column "b" .integer [.unique, .change],
        .index .unique ["b"] [], .column "c" .integer [.unique, .change]]
    ∃ statements, (build "t" steps).statements .mysql = .ok statements ∧
      (∃ statement ∈ statements, statement.table? = some ["t"] ∧ statement.makesUnique "a" = true) ∧
      (∃ statement ∈ statements, statement.table? = some ["t"] ∧ statement.makesUnique "b" = true) ∧
      ¬ ∃ statement ∈ statements,
        statement.table? = some ["t"] ∧ statement.makesUnique "c" = true := by
  intro steps
  have compiled : (build "t" steps).toSql .mysql =
      .ok ["CREATE TABLE `t` (`a` INT NOT NULL UNIQUE, `b` INT NOT NULL, `c` INT NOT NULL)",
        "CREATE UNIQUE INDEX `uk_t_b` ON `t` (`b`)"] := by decide +kernel
  obtain ⟨statements, same, _, unique⟩ := unique_columns_toSql "t" steps (by decide) compiled
  refine ⟨statements, same, ?_, ?_, ?_⟩
  · exact (unique (Column.declare "a" .integer [.unique]) (by decide) rfl).mpr nofun
  · exact (unique (Column.declare "b" .integer [.unique, .change]) (by decide) rfl).mpr
      fun _ _ _ => ⟨Index.declare .unique ["b"] [], by decide, rfl, rfl⟩
  · intro made
    have lost := (unique (Column.declare "c" .integer [.unique, .change]) (by decide) rfl).mp made
      rfl rfl rfl
    revert lost
    decide

/-- In mysql nothing makes the changed column unique, although it is flagged so. -/
theorem flag_lost_on_changed_column :
    let plan := build "t" [.create, .column "a" .integer [.unique, .change]]
    let creation : Statement := .createTable false ["t"]
      [.column { name := "a", type := { word := "INT" }, clauses := [.notNull] }] []
    plan.columns.map Column.unique = [true] ∧ plan.statements .mysql = .ok [creation] ∧
      creation.makesUnique "a" = false := by
  decide +kernel

end Plan

end TablePlan

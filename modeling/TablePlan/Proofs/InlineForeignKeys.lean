import Mathlib.Data.List.Nodup
import TablePlan.Proofs.Declarations
import TablePlan.Proofs.WellFormed

/-!
# Foreign keys in sqlite

Sqlite declares a foreign key only inside the creation of a table or inside the addition of its
column.  The addition takes the first foreign key of its column.  Main statement: a creation declares
all of them, and an addition declares all exactly when no two are on the same column
(`foreignKeys_toSql_sqlite`).
-/

namespace TablePlan

/-- The first foreign key of a column. -/
def Plan.firstForeignKey? (plan : Plan) (column : Column) : Option ForeignKey :=
  plan.foreignKeys.find? fun key => key.column = column.name

/-- The foreign keys that the new columns bring with them. -/
def Plan.carriedForeignKeys (plan : Plan) : List ForeignKey :=
  plan.addedColumns.flatMap fun column => (plan.firstForeignKey? column).toList

namespace Compile

open Sql
open Sql.Declared (gather)

/-- A foreign key as the definition of its column declares it, without a name. -/
def inlineForeignKey (key : ForeignKey) : ForeignKeyDeclaration :=
  { name := none, column := key.column, target := reference key }

section
variable (plan : Plan)

/-! ## Statements that declare foreign keys -/

/-- The definition of a column declares its first foreign key, if the table is not created. -/
theorem foreignKeys_columnDefinition (column : Column) :
    (columnDefinition .sqlite plan column).declared.foreignKeys =
      if plan.creating then [] else (plan.firstForeignKey? column).toList.map inlineForeignKey := by
  have check : ∀ clause ∈ (enumerationCheck? column).toList,
      (clause.declared column.name).foreignKeys = [] := by
    unfold enumerationCheck?
    split
    · exact List.forall_mem_singleton.mpr rfl
    · exact nofun
  have others : ∀ clause ∈ only column.autoIncrement .primaryAutoincrement ++
      only (!column.nullable) .notNull ++ defaultClause .sqlite column ++
      (enumerationCheck? column).toList ++
      (column.collation.toList.map fun name => ColumnClause.collate (.verbatim name)),
      (clause.declared column.name).foreignKeys = [] := by
    intro clause listed
    simp only [List.mem_append, mem_only, defaultClause, List.mem_map] at listed
    rcases listed with (((⟨_, rfl⟩ | ⟨_, rfl⟩) | ⟨_, _, rfl⟩) | check') | ⟨_, _, rfl⟩
    · rfl
    · rfl
    · rfl
    · exact check clause check'
    · rfl
  have references : (if plan.creating then []
      else (plan.foreignKeys.find? fun key => key.column = column.name).toList.map fun key =>
        ColumnClause.references (reference key)).flatMap
        (fun clause => (clause.declared column.name).foreignKeys) =
      if plan.creating then [] else (plan.firstForeignKey? column).toList.map inlineForeignKey := by
    cases plan.creating with
    | true => rfl
    | false =>
      cases first : plan.firstForeignKey? column with
      | none =>
        have none : plan.foreignKeys.find? (fun key => key.column = column.name) = none := first
        rw [none]
        rfl
      | some key =>
        have found : plan.foreignKeys.find? (fun key => key.column = column.name) = some key := first
        have own : key.column = column.name := by simpa using List.find?_some first
        rw [found]
        show [_] = [_]
        rw [inlineForeignKey, own]
  show (gather (ColumnClause.declared column.name) (sqliteClauses plan column)).foreignKeys = _
  rw [Declared.foreignKeys_gather, sqliteClauses, List.flatMap_append,
    List.flatMap_eq_nil_iff.mpr others, List.nil_append, references]

/-- The creation of the table declares all foreign keys as constraints of the table. -/
theorem foreignKeys_createTable (creating : plan.creating = true) (ifNotExists : Bool)
    (options : List TableOption) :
    (Statement.createTable ifNotExists (tablePath plan)
      (plan.columns.map (fun column => .column (columnDefinition .sqlite plan column)) ++
        tableConstraintsOutput .sqlite plan) options).declared.foreignKeys =
      plan.foreignKeys.map (foreignKeyDeclaration plan) := by
  have definitions : (gather TableElement.declared
      (plan.columns.map fun column => .column (columnDefinition .sqlite plan column))).foreignKeys =
      [] := by
    rw [Declared.gather_map, Declared.foreignKeys_gather, List.flatMap_eq_nil_iff]
    intro column _
    exact (foreignKeys_columnDefinition plan column).trans (if_pos creating)
  have constraints : (gather TableElement.declared
      ((inlineForeignKeysOutput .sqlite plan).map .constraint)).foreignKeys =
      plan.foreignKeys.map (foreignKeyDeclaration plan) := by
    have all : constrainsInline .sqlite plan = true := rfl
    rw [inlineForeignKeysOutput, if_pos all, List.map_map, Declared.gather_map,
      Declared.foreignKeys_gather, List.map_eq_flatMap]
    rfl
  have stated : (gather TableOption.declared options).foreignKeys = [] := by
    rw [Declared.foreignKeys_gather, List.flatMap_eq_nil_iff]
    intro option _
    cases option <;> rfl
  rw [Statement.declared, Declared.foreignKeys_append, stated, Declared.gather_append,
    Declared.foreignKeys_append, definitions, tableConstraintsOutput, Declared.gather_append,
    Declared.gather_append, declared_primaryKeyElementsOutput, declared_inlineKeysOutput,
    Declared.foreignKeys_append, constraints]
  exact List.append_nil _

/-- Indexes and foreign keys that go with a creation or an addition have no statement that declares a
foreign key. -/
theorem foreignKeys_definitionsOutput :
    ∀ statement ∈ definitionsOutput .sqlite plan, statement.declared.foreignKeys = [] := by
  intro statement listed
  rcases mem_definitionsOutput listed with ⟨index, rfl, _⟩ | ⟨notSqlite, _⟩
  · rfl
  · exact absurd rfl notSqlite

/-- The addition of a column declares its first foreign key. -/
theorem foreignKeys_addition (existing : plan.creating = false) (column : Column) :
    (Statement.alterTable (tablePath plan)
      [.addColumn (columnDefinition .sqlite plan column)]).declared.foreignKeys =
      (plan.firstForeignKey? column).toList.map inlineForeignKey := by
  have definition := foreignKeys_columnDefinition plan column
  rw [existing] at definition
  exact (List.append_nil _).trans definition

end

end Compile

namespace Plan

open Compile
open Sql (Statement)
open Sql.Declared (gather)

variable {plan : Plan}

/-! ## All foreign keys of a plan -/

/-- A statement that declares a foreign key creates the table, or adds a column to an existing one. -/
theorem place_of_foreignKeys_sqlite (order : plan.AsksInOrder) {statement : Statement}
    (member : statement ∈ plan.output .sqlite) (declares : statement.declared.foreignKeys ≠ []) :
    if plan.creating then statement.createsTable = true
    else ∃ column ∈ plan.addedColumns, statement =
      .alterTable (tablePath plan) [.addColumn (columnDefinition .sqlite plan column)] := by
  obtain ⟨asked, listed, given⟩ := List.mem_flatMap.mp member
  cases asked with
  | create | createIfNotExists =>
    rw [if_pos (creating_of_mem_commands order listed rfl)]
    rcases List.mem_append.mp given with table | definition
    · cases List.mem_singleton.mp table
      rfl
    · exact absurd (foreignKeys_definitionsOutput plan statement definition) declares
  | add =>
    have existing : plan.creating = false := by
      cases creating : plan.creating with
      | false => rfl
      | true =>
        have requested : .add ∈ plan.requested := commands_of_creating creating ▸ listed
        exact absurd requested order.noAddition
    rw [existing]
    rcases List.mem_append.mp given with addition | definition
    · obtain ⟨_, added, rfl⟩ := List.mem_map.mp addition
      obtain ⟨column, new, rfl⟩ := List.mem_map.mp added
      exact ⟨column, new, rfl⟩
    · exact absurd (foreignKeys_definitionsOutput plan statement definition) declares
  | change => cases given
  | comment => cases given
  | _ =>
    have nothing := declaresNothing_commandOutput rfl statement given
    rw [(Statement.declared_of_declaresNothing nothing).1] at declares
    exact absurd rfl declares

/-- A creation declares all foreign keys by their names, and an addition those that the new columns
bring with them. -/
theorem foreignKeys_output_sqlite (order : plan.AsksInOrder)
    (single : ¬ (.create ∈ plan.requested ∧ .createIfNotExists ∈ plan.requested)) :
    (gather Statement.declared (plan.output .sqlite)).foreignKeys =
      if plan.creating then plan.foreignKeys.map (foreignKeyDeclaration plan)
      else plan.carriedForeignKeys.map inlineForeignKey := by
  have definitions : (definitionsOutput .sqlite plan).flatMap (fun s => s.declared.foreignKeys) = [] :=
    List.flatMap_eq_nil_iff.mpr (foreignKeys_definitionsOutput plan)
  have nothing (statement : Statement) (silent : statement.DeclaresNothing) :
      statement.declared.foreignKeys = [] := by
    rw [(Statement.declared_of_declaresNothing silent).1]
  rw [Sql.Declared.foreignKeys_gather, flatMap_output nothing rfl order single, declaringOutput,
    List.flatMap_append, definitions, List.append_nil]
  cases creating : plan.creating with
  | true =>
    rw [if_pos rfl, if_pos rfl]
    exact (List.append_nil _).trans
      (foreignKeys_createTable plan creating plan.ifNotExists (tableOptions .sqlite plan))
  | false =>
    have additions : addColumnsOutput .sqlite plan = plan.addedColumns.map fun column =>
        .alterTable (tablePath plan) [.addColumn (columnDefinition .sqlite plan column)] :=
      List.map_map
    have unchanged : changeColumnsOutput .sqlite plan = [] := rfl
    rw [if_neg Bool.false_ne_true, if_neg Bool.false_ne_true, unchanged, List.nil_append, additions,
      List.flatMap_map, carriedForeignKeys, List.map_flatMap]
    exact List.flatMap_congr fun column _ => foreignKeys_addition plan creating column

/-! ## Which foreign keys are carried -/

/-- Every foreign key that compiles for an existing table is on a new column. -/
theorem exists_column_of_foreignKey (existing : plan.creating = false)
    (passed : plan.verdict .sqlite = .ok ()) {key : ForeignKey} (listed : key ∈ plan.foreignKeys) :
    ∃ column ∈ plan.addedColumns, column.name = key.column := by
  have additions : plan.hasAdditions = true := by simp [hasAdditions, List.ne_nil_of_mem listed]
  have verdict := forM_eq_ok_iff.mp passed .add (add_mem_commands existing additions)
  have definitions := (bind_eq_ok_iff.mp verdict).2
  have checked := forM_eq_ok_iff.mp (bind_eq_ok_iff.mp definitions).2 key listed
  have inline := (bind_eq_ok_iff.mp (bind_eq_ok_iff.mp checked).2).2
  simpa [declaresForeignKeyInline, existing] using inline

/-- Each column brings one foreign key at most. -/
theorem column_carried_sublist (columns : List Column) :
    ((columns.flatMap fun column => (plan.firstForeignKey? column).toList).map
      ForeignKey.column).Sublist (columns.map Column.name) := by
  induction columns with
  | nil => exact .slnil
  | cons column rest ih =>
    rw [List.flatMap_cons, List.map_append, List.map_cons]
    cases first : plan.firstForeignKey? column with
    | none => exact ih.cons column.name
    | some key =>
      have own : key.column = column.name := by simpa using List.find?_some first
      rw [Option.toList_some, List.map_singleton, List.singleton_append, own]
      exact ih.cons_cons column.name

/-- The new columns bring all foreign keys with them exactly when no two are on one column. -/
theorem carriedForeignKeys_perm_iff (distinct : (plan.addedColumns.map Column.name).Nodup)
    (placed : ∀ key ∈ plan.foreignKeys, ∃ column ∈ plan.addedColumns, column.name = key.column) :
    plan.carriedForeignKeys.Perm plan.foreignKeys ↔
      (plan.foreignKeys.map ForeignKey.column).Nodup := by
  have carried : (plan.carriedForeignKeys.map ForeignKey.column).Nodup :=
    distinct.sublist (column_carried_sublist plan.addedColumns)
  constructor
  · intro all
    exact (all.map ForeignKey.column).nodup_iff.mp carried
  · intro apart
    refine (List.perm_ext_iff_of_nodup (.of_map _ carried) (.of_map _ apart)).mpr fun key => ?_
    constructor
    · intro member
      obtain ⟨column, _, first⟩ := List.mem_flatMap.mp member
      exact List.mem_of_find?_eq_some (Option.mem_toList.mp first)
    · intro listed
      obtain ⟨column, new, own⟩ := placed key listed
      refine List.mem_flatMap.mpr ⟨column, new, Option.mem_toList.mpr ?_⟩
      cases first : plan.firstForeignKey? column with
      | none =>
        have different := List.find?_eq_none.mp first key listed
        simp [own] at different
      | some other =>
        have same : other.column = column.name := by simpa using List.find?_some first
        rw [List.inj_on_of_nodup_map apart (List.mem_of_find?_eq_some first) listed (same.trans own)]

/-! ## Plans that are built -/

/-- The foreign keys of a plan that sqlite compiles, however it was built, as long as it creates its
table in one way.

* A creation declares each of them once, by its name and in order, as a constraint of the table.
* Otherwise each is on a column that is added, and the addition of a column declares the first one of
  that column.  All are declared, each once, exactly when no two of them are on one column. -/
theorem foreignKeys_toSql_sqlite (table : String) (steps : List Step)
    (single : ¬ (.create ∈ (build table steps).requested ∧
      .createIfNotExists ∈ (build table steps).requested))
    {texts : List String} (compiled : (build table steps).toSql .sqlite = .ok texts) :
    ∃ statements, (build table steps).statements .sqlite = .ok statements ∧
      texts = statements.map (Statement.text .sqlite) ∧
      ((build table steps).creating = true →
        (gather Statement.declared statements).foreignKeys =
          (build table steps).foreignKeys.map (foreignKeyDeclaration (build table steps)) ∧
        ∀ statement ∈ statements, statement.declared.foreignKeys ≠ [] →
          statement.createsTable = true) ∧
      ((build table steps).creating = false →
        (∀ key ∈ (build table steps).foreignKeys,
          ∃ column ∈ (build table steps).addedColumns, column.name = key.column) ∧
        (gather Statement.declared statements).foreignKeys =
          (build table steps).carriedForeignKeys.map inlineForeignKey ∧
        (∀ statement ∈ statements, statement.declared.foreignKeys ≠ [] →
          ∃ column ∈ (build table steps).addedColumns, statement =
            .alterTable (Name.segments table)
              [.addColumn (columnDefinition .sqlite (build table steps) column)]) ∧
        ((build table steps).carriedForeignKeys.Perm (build table steps).foreignKeys ↔
          ((build table steps).foreignKeys.map ForeignKey.column).Nodup)) := by
  have order := asksInOrder_build table steps
  have path : tablePath (build table steps) = Name.segments table := by
    rw [tablePath, table_build]
  revert single compiled order path
  generalize build table steps = plan
  intro single compiled order path
  obtain ⟨passed, same_output, texts_eq⟩ := statements_of_toSql compiled
  have all := foreignKeys_output_sqlite order single
  refine ⟨plan.output .sqlite, same_output, texts_eq, ?_, ?_⟩
  · intro creating
    rw [if_pos creating] at all
    refine ⟨all, fun statement member declares => ?_⟩
    have place := place_of_foreignKeys_sqlite order member declares
    rwa [if_pos creating] at place
  · intro existing
    rw [existing, if_neg Bool.false_ne_true] at all
    have placed : ∀ key ∈ plan.foreignKeys, ∃ column ∈ plan.addedColumns, column.name = key.column :=
      fun key listed => exists_column_of_foreignKey existing passed listed
    refine ⟨placed, all, fun statement member declares => ?_, carriedForeignKeys_perm_iff ?_ placed⟩
    · have place := place_of_foreignKeys_sqlite order member declares
      rwa [existing, if_neg Bool.false_ne_true, path] at place
    · exact (wellFormed_of_verdict passed).distinct.sublist (List.filter_sublist.map Column.name)

/-- Two foreign keys on columns of their own are both declared; a second one on the same column is
lost. -/
theorem foreignKeys_toSql_sqlite_sameColumn :
    let apart : List Step :=
      [.column "a" .integer [], .column "b" .integer [],
        .foreignKey "b" [.references "id", .on "v"], .foreignKey "a" [.references "id", .on "u"]]
    let together : List Step :=
      [.column "a" .integer [], .foreignKey "a" [.references "id", .on "u"],
        .foreignKey "a" [.references "id", .on "v"]]
    (build "t" apart).carriedForeignKeys.Perm (build "t" apart).foreignKeys ∧
      ¬ (build "t" together).carriedForeignKeys.Perm (build "t" together).foreignKeys := by
  intro apart together
  have both : (build "t" apart).toSql .sqlite =
      .ok ["ALTER TABLE \"t\" ADD COLUMN \"a\" INTEGER NOT NULL REFERENCES \"u\" (\"id\")",
        "ALTER TABLE \"t\" ADD COLUMN \"b\" INTEGER NOT NULL REFERENCES \"v\" (\"id\")"] := by
    decide +kernel
  have one : (build "t" together).toSql .sqlite =
      .ok ["ALTER TABLE \"t\" ADD COLUMN \"a\" INTEGER NOT NULL REFERENCES \"u\" (\"id\")"] := by
    decide +kernel
  constructor
  · obtain ⟨_, _, _, _, existing⟩ := foreignKeys_toSql_sqlite "t" apart (by decide) both
    exact (existing rfl).2.2.2.mpr (by decide)
  · obtain ⟨_, _, _, _, existing⟩ := foreignKeys_toSql_sqlite "t" together (by decide) one
    intro all
    have apart := (existing rfl).2.2.2.mp all
    revert apart
    decide

/-- Of two foreign keys on a new column only the first is declared. -/
theorem second_foreignKey_lost :
    let plan := build "t" [.column "a" .integer [], .foreignKey "a" [.references "id", .on "u"],
      .foreignKey "a" [.references "id", .on "v"]]
    let target : Sql.Reference :=
      { table := ["u"], column := "id", onDelete := none, onUpdate := none }
    plan.foreignKeys.map ForeignKey.referencedTable = ["u", "v"] ∧
      plan.statements .sqlite = .ok [.alterTable ["t"] [.addColumn
        { name := "a"
          type := { word := "INTEGER" }
          clauses := [.notNull, .references target] }]] := by
  decide +kernel

end Plan

end TablePlan

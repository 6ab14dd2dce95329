import TablePlan.Proofs.Enumerations
import TablePlan.Proofs.PrimaryKeys

/-!
# Primary keys that are declared

A table has one primary key, and a plan may declare several over lists of columns.  An existing table
is asked to take each of them; a new table takes the first one.  Main statement: when a plan that is
built compiles, a declared primary key is among its statements exactly when the table exists already
or the key has the columns of the first one declared (`declaredKeys_toSql`).
-/

namespace TablePlan

namespace Sql

/-- The primary keys that a statement declares, each as the list of its columns. -/
def Statement.primaryKeys (statement : Statement) : List (List String) :=
  statement.inlinePrimaryKeys ++ statement.addedPrimaryKeys

theorem Statement.Keyless.primaryKeys_eq_nil {statement : Statement} (keyless : statement.Keyless) :
    statement.primaryKeys = [] := by
  rw [primaryKeys, keyless.inline, keyless.added, List.append_nil]

/-! ## What a primary key looks like -/

/-- A primary key as a constraint, behind its name if it has one. -/
def primaryKeyFragment (columns : List String) : Fragment :=
  .bare "PRIMARY KEY " :: Fragment.parens (Fragment.names columns)

/-- Whether a text holds a primary key: as a constraint over its columns, or in the definition of its
only column. -/
def HoldsPrimaryKey (dialect : Dialect) (columns : List String) (text : String) : Prop :=
  ((primaryKeyFragment columns).text dialect).toList <:+: text.toList ∨
    ∃ definition : ColumnDefinition, columns = [definition.name] ∧
      .primaryAutoincrement ∈ definition.clauses ∧
      (definition.fragment.text dialect).toList <:+: text.toList

section
variable {columns : List String}

theorem Constraint.infix_primaryKey {stated : Constraint}
    (declared : columns ∈ stated.primaryKeys) :
    primaryKeyFragment columns <:+: stated.fragment := by
  cases stated with
  | primaryKey name covered =>
    rw [List.mem_singleton.mp declared]
    exact List.infix_append_of_infix_right List.infix_rfl
  | foreignKey => cases declared

theorem ColumnDefinition.mem_primaryKeys {definition : ColumnDefinition} :
    columns ∈ definition.primaryKeys ↔
      .primaryAutoincrement ∈ definition.clauses ∧ columns = [definition.name] := by
  have each (clause : ColumnClause) : columns ∈ clause.primaryKeys definition.name ↔
      clause = .primaryAutoincrement ∧ columns = [definition.name] := by
    cases clause <;> simp [ColumnClause.primaryKeys]
  simp [primaryKeys, each]

/-- A statement that declares a primary key holds it, in a constraint or in a definition. -/
theorem Statement.primaryKey_cases {statement : Statement}
    (declared : columns ∈ statement.primaryKeys) :
    primaryKeyFragment columns <:+: statement.fragment ∨
      ∃ definition ∈ statement.definitions, columns ∈ definition.primaryKeys := by
  rcases List.mem_append.mp declared with inline | added
  · cases statement with
    | createTable ifNotExists table elements options =>
      obtain ⟨element, member, given⟩ := List.mem_flatMap.mp inline
      cases element with
      | column definition =>
        exact .inr ⟨definition, List.mem_filterMap.mpr ⟨_, member, rfl⟩, given⟩
      | constraint stated =>
        exact .inl ((Constraint.infix_primaryKey given).trans (infix_element member ..))
      | key => cases given
    | alterTable table alterations =>
      obtain ⟨alteration, member, given⟩ := List.mem_flatMap.mp inline
      cases alteration with
      | addColumn definition | modifyColumn definition =>
        exact .inr ⟨definition, List.mem_filterMap.mpr ⟨_, member, rfl⟩, given⟩
      | _ => cases given
    | _ => cases inline
  · cases statement with
    | alterTable table alterations =>
      obtain ⟨alteration, member, given⟩ := List.mem_flatMap.mp added
      cases alteration with
      | addConstraint stated =>
        have held : stated.fragment <:+: (Alteration.addConstraint stated).fragment :=
          List.infix_cons List.infix_rfl
        exact .inl (((Constraint.infix_primaryKey given).trans held).trans
          (infix_alteration member table))
      | _ => cases given
    | _ => cases added

/-- What a statement declares stands in its text. -/
theorem Statement.holdsPrimaryKey {dialect : Dialect} {statement : Statement}
    (declared : columns ∈ statement.primaryKeys) :
    HoldsPrimaryKey dialect columns (statement.text dialect) := by
  rcases primaryKey_cases declared with constraint | ⟨definition, listed, given⟩
  · exact .inl (Fragment.infix_text constraint)
  · obtain ⟨clause, single⟩ := ColumnDefinition.mem_primaryKeys.mp given
    exact .inr ⟨definition, single, clause, Fragment.infix_text (infix_definition listed)⟩

end

end Sql

namespace Plan

open Compile
open Sql (Statement HoldsPrimaryKey)

section
variable {dialect : Dialect} {plan : Plan}

/-- In a plan that creates its table the creations declare the key of the new table, and no other
statement declares one. -/
theorem primaryKeys_of_mem_output (order : plan.AsksInOrder) (creating : plan.creating = true)
    (flagged : ∀ column ∈ plan.columns, column.autoIncrement = true → column.primary = true)
    (passed : plan.verdict dialect = .ok ()) {statement : Statement}
    (member : statement ∈ plan.output dialect) :
    statement.primaryKeys = if statement.createsTable then plan.createdPrimaryKeys else [] := by
  rcases mem_output_of_creating order creating member with keyless | ⟨ifNotExists, rfl⟩
  · rw [keyless.primaryKeys_eq_nil, keyless.createsNone, if_neg Bool.false_ne_true]
  · have verdict := (creation_of_verdict creating passed).1
    rw [Statement.primaryKeys, Statement.createsTable, if_pos rfl, inlinePrimaryKeys_createTable,
      primaryKeys_of_autoincrementVerdict flagged verdict]
    exact List.append_nil _

/-- A new table is due a declared key exactly when it has the columns of the first one. -/
theorem mem_createdPrimaryKeys {index : Index} (declared : index ∈ plan.declaredPrimaryKeys) :
    index.columns ∈ plan.createdPrimaryKeys ↔
      ∃ first, plan.declaredPrimaryKeys.head? = some first ∧ first.columns = index.columns := by
  unfold createdPrimaryKeys
  cases keys : plan.declaredPrimaryKeys with
  | nil =>
    rw [keys] at declared
    cases declared
  | cons first others => simp [eq_comm]

/-- An existing table gains every declared key. -/
theorem exists_addition (order : plan.AsksInOrder) (existing : plan.creating = false)
    (passed : plan.verdict dialect = .ok ()) {index : Index}
    (declared : index ∈ plan.declaredPrimaryKeys) :
    ∃ statement ∈ plan.output dialect, index.columns ∈ statement.primaryKeys := by
  have notSqlite : dialect ≠ .sqlite := by
    rintro rfl
    have none := declaresPrimary_of_sqlite existing passed
    rw [declaresPrimary_eq, Bool.not_eq_false', List.isEmpty_iff] at none
    rw [none] at declared
    cases declared
  have silent (column : Column) (_ : column ∈ plan.columns) :
      (columnDefinition dialect plan column).primaryKeys = [] := by
    rw [primaryKeys_columnDefinition]
    simp [notSqlite, only]
  have due : index.columns ∈ plan.addedPrimaryKeys := by
    rw [← addedPrimaryKey?_columns]
    exact List.mem_append_right _ (List.mem_map_of_mem declared)
  have added := (primaryKeys_output_of_existing order existing silent).2
  rw [if_neg notSqlite] at added
  rw [← added] at due
  obtain ⟨statement, member, given⟩ := List.mem_flatMap.mp due
  exact ⟨statement, member, List.mem_append_right _ given⟩

end

variable {dialect : Dialect} {table : String} {steps : List Step} {texts : List String}

/-- When a plan that is built compiles, a primary key declared over a list of columns is declared by a
statement exactly when the plan does not create its table, or the key has the columns of the first
one declared.  A statement that declares a primary key holds it in its text. -/
theorem declaredKeys_toSql (compiled : (build table steps).toSql dialect = .ok texts) :
    ∃ statements, (build table steps).statements dialect = .ok statements ∧
      texts = statements.map (Statement.text dialect) ∧
      ∀ index ∈ (build table steps).declaredPrimaryKeys,
        ((∃ statement ∈ statements, index.columns ∈ statement.primaryKeys) ↔
          ((build table steps).creating = true →
            ∃ first, (build table steps).declaredPrimaryKeys.head? = some first ∧
              first.columns = index.columns)) ∧
        ∀ statement ∈ statements, index.columns ∈ statement.primaryKeys →
          HoldsPrimaryKey dialect index.columns (statement.text dialect) := by
  have order := asksInOrder_build table steps
  have flagged : ∀ column ∈ (build table steps).columns,
      column.autoIncrement = true → column.primary = true :=
    forall_mem_columns_build
      (P := fun column => column.autoIncrement = true → column.primary = true)
      Column.primary_declare table steps
  revert compiled order flagged
  generalize build table steps = plan
  intro compiled order flagged
  obtain ⟨passed, same_output, texts_eq⟩ := statements_of_toSql compiled
  refine ⟨plan.output dialect, same_output, texts_eq, ?_⟩
  intro index declared
  refine ⟨?_, fun statement _ given => Statement.holdsPrimaryKey given⟩
  cases creating : plan.creating with
  | false =>
    refine ⟨fun _ => nofun, fun _ => ?_⟩
    exact exists_addition order creating passed declared
  | true =>
    rw [← mem_createdPrimaryKeys declared]
    constructor
    · rintro ⟨statement, member, given⟩ -
      rw [primaryKeys_of_mem_output order creating flagged passed member] at given
      split at given
      · exact given
      · cases given
    · intro due
      obtain ⟨statement, member, creates⟩ := (creation_of_verdict creating passed).2
      refine ⟨statement, member, ?_⟩
      rw [primaryKeys_of_mem_output order creating flagged passed member, if_pos creates]
      exact due rfl

/-- An existing table is asked to take both of two keys; a new table takes the first, and the second
one too if it has the same columns. -/
theorem declaredKeys_toSql_twoKeys :
    let keys (second : String) : List Step :=
      [.index .primary ["a"] [], .index .primary [second] [.named "other_pk"]]
    let creation : List Step := [.create, .column "a" .integer [], .column "b" .integer []]
    let declares (plan : Plan) (key : String) : Prop :=
      ∃ statements, plan.statements .postgres = .ok statements ∧
        ∃ statement ∈ statements, [key] ∈ statement.primaryKeys
    declares (build "t" (keys "b")) "b" ∧ ¬ declares (build "t" (creation ++ keys "b")) "b" ∧
      declares (build "t" (creation ++ keys "a")) "a" := by
  intro keys creation declares
  have altered : (build "t" (keys "b")).toSql .postgres =
      .ok ["ALTER TABLE \"t\" ADD CONSTRAINT \"pk_t\" PRIMARY KEY (\"a\")",
        "ALTER TABLE \"t\" ADD CONSTRAINT \"other_pk\" PRIMARY KEY (\"b\")"] := by
    decide +kernel
  have created (second : String) (listed : second ∈ ["a", "b"]) :
      (build "t" (creation ++ keys second)).toSql .postgres =
        .ok ["CREATE TABLE \"t\" (\"a\" INTEGER NOT NULL, \"b\" INTEGER NOT NULL, " ++
          "CONSTRAINT \"pk_t\" PRIMARY KEY (\"a\"))"] := by
    revert second
    decide +kernel
  let other : Index := { kind := .primary, columns := ["b"], name := some "other_pk" }
  let same : Index := { kind := .primary, columns := ["a"], name := some "other_pk" }
  refine ⟨?_, ?_, ?_⟩
  · obtain ⟨statements, compiled, _, each⟩ := declaredKeys_toSql altered
    exact ⟨statements, compiled, (each other (by decide)).1.mpr (by decide)⟩
  · rintro ⟨statements, compiled, declared⟩
    obtain ⟨_, compiled', _, each⟩ := declaredKeys_toSql (created "b" (by decide))
    cases compiled.symm.trans compiled'
    obtain ⟨first, head, columns⟩ := (each other (by decide)).1.mp declared (by decide)
    cases head
    revert columns
    decide
  · obtain ⟨statements, compiled, _, each⟩ := declaredKeys_toSql (created "a" (by decide))
    refine ⟨statements, compiled, (each same (by decide)).1.mpr fun _ => ⟨_, rfl, rfl⟩⟩

/-- Of two keys over other columns a new table is given only the first, and nothing is said of the
second. -/
theorem second_declaredKey_lost :
    let plan := build "t" [.create, .column "a" .integer [], .column "b" .integer [],
      .index .primary ["a"] [], .index .primary ["b"] [.named "other_pk"]]
    plan.declaredPrimaryKeys.map Index.columns = [["a"], ["b"]] ∧
      (plan.statements .postgres).map (List.flatMap Statement.primaryKeys) = .ok [["a"]] ∧
      plan.toSql .postgres =
        .ok ["CREATE TABLE \"t\" (\"a\" INTEGER NOT NULL, \"b\" INTEGER NOT NULL, " ++
          "CONSTRAINT \"pk_t\" PRIMARY KEY (\"a\"))"] := by
  decide +kernel

end Plan

end TablePlan

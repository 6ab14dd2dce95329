import TablePlan.Proofs.Execution
import TablePlan.Proofs.Outcome

/-!
# Where a renamed table goes

In postgres `ALTER TABLE x RENAME TO y` gives a table another name within its schema; in mysql
`RENAME TABLE x TO y` moves it to exactly `y`.  Names without a schema lead to the current one.  Main
statement: every renaming that a session accepts is one statement, which in mysql leaves the table
where the new name says, and in postgres in the schema where it was; so the two agree exactly when the
new name has no other schema (`rename_moves_table`).
-/

namespace TablePlan

open Text (isBlank)

/-! ## Names that a session accepts -/

/-- A name is accepted exactly when it is one segment that is not blank, or in a dialect with schemas
two such segments. -/
theorem checkTableName_eq_ok_iff {dialect : Dialect} {table : String} :
    checkTableName dialect table = .ok () ↔
      isBlank table = false ∧
        (Name.segments table = [table] ∨
          dialect.supportsSchemas = true ∧ ∃ schema last, Name.segments table = [schema, last] ∧
            isBlank schema = false ∧ isBlank last = false) := by
  unfold checkTableName
  cases blank : isBlank table with
  | true => simp
  | false =>
    cases cut : Name.segments table with
    | nil => cases dialect.supportsSchemas <;> simp
    | cons first rest =>
      cases rest with
      | nil => simp [Name.eq_of_segments_eq_singleton cut]
      | cons second rest =>
        cases rest with
        | nil => cases dialect.supportsSchemas <;> cases one : isBlank first <;> simp [one]
        | cons => cases dialect.supportsSchemas <;> simp

/-- Dialects with schemas accept the same names. -/
theorem checkTableName_congr {first second : Dialect}
    (same : first.supportsSchemas = second.supportsSchemas) (table : String) :
    checkTableName first table = .ok () ↔ checkTableName second table = .ok () := by
  rw [checkTableName_eq_ok_iff, checkTableName_eq_ok_iff, same]

/-! ## Places -/

/-- Where a table is: its schema, and its name there. -/
structure Place where
  schema : String
  name : String
  deriving DecidableEq, Repr

/-- Where the table of a name is; one without a schema is in the current one. -/
def Place.ofName (current name : String) : Place :=
  { schema := (Name.schema? name).getD current, name := Name.unqualified name }

/-- Where a renaming is to leave a table: where the new name says, and in the schema where it was if
that names none. -/
def Place.renamed (old : Place) (new : String) : Place :=
  { schema := (Name.schema? new).getD old.schema, name := Name.unqualified new }

namespace Sql

/-- The place that a path leads to. -/
def Path.place? (current : String) : Path → Option Place
  | [name] => some { schema := current, name }
  | [schema, name] => some { schema, name }
  | _ => none

/-- From where to where a statement moves a table: an alteration keeps it in its schema, and
`RENAME TABLE` takes it to the place that is named. -/
def Statement.move? (current : String) : Statement → Option (Place × Place)
  | .alterTable table [.renameTable new] =>
    (table.place? current).map fun place => (place, { place with name := new })
  | .renameTable table new => do return (← table.place? current, ← new.place? current)
  | _ => none

end Sql

open Sql (Statement)

variable {dialect : Dialect} {old new : String}

theorem place?_segments (current : String) (accepted : checkTableName dialect old = .ok ()) :
    Sql.Path.place? current (Name.segments old) = some (.ofName current old) := by
  obtain ⟨_, single | ⟨_, schema, last, pair, _⟩⟩ := checkTableName_eq_ok_iff.mp accepted
  · rw [single, Place.ofName, Name.schema?_of_singleton single, Name.unqualified_of_singleton single]
    rfl
  · rw [pair, Place.ofName, Name.schema?_of_pair pair, Name.unqualified_of_pair pair]
    rfl

/-- The path that mysql is given leads to where the table is to go. -/
theorem place?_target (current old : String) (accepted : checkTableName dialect new = .ok ()) :
    Sql.Path.place? current
        (if Name.isQualified new then Name.segments new else (Name.schema? old).toList ++ [new]) =
      some ((Place.ofName current old).renamed new) := by
  obtain ⟨_, single | ⟨_, schema, last, pair, _⟩⟩ := checkTableName_eq_ok_iff.mp accepted
  · rw [Name.isQualified_of_singleton single, Place.renamed, Name.schema?_of_singleton single,
      Name.unqualified_of_singleton single, Place.ofName]
    cases Name.schema? old <;> rfl
  · rw [Name.isQualified_of_pair pair, if_pos rfl, pair, Place.renamed, Name.schema?_of_pair pair,
      Name.unqualified_of_pair pair]
    rfl

/-! ## The statement of a renaming -/

namespace Request

open Compile

/-- The plan of a renaming that is accepted compiles to its one statement. -/
theorem rename_compiles (acceptedOld : checkTableName dialect old = .ok ())
    (acceptedNew : checkTableName dialect new = .ok ()) :
    (rename old new).described.statements dialect =
      .ok [renameTableOutput dialect (rename old new).described] := by
  have named : isBlank old = false := (checkTableName_eq_ok_iff.mp acceptedOld).1
  have renamed : isBlank new = false := (checkTableName_eq_ok_iff.mp acceptedNew).1
  have passed : renameTableVerdict (rename old new).described = .ok () := by
    rw [renameTableVerdict, bind_eq_ok_iff, checkTable_eq_ok_iff, refuseIf_eq_ok_iff]
    exact ⟨named, renamed⟩
  refine (Plan.statements_splits dialect _).eq_ok_iff.mpr ⟨?_, rfl⟩
  exact forM_eq_ok_iff.mpr (List.forall_mem_singleton.mpr passed)

/-- The session gives out the texts of the statements. -/
theorem sql_of_statements {request : Request} {statements : List Statement}
    (passed : request.names.forM (checkTableName dialect) = .ok ())
    (compiled : request.described.statements dialect = .ok statements) :
    request.sql dialect = .ok (statements.map (Statement.text dialect)) := by
  rw [sql_of_passed passed, Plan.toSql, compiled]
  rfl

theorem rename_passes (acceptedOld : checkTableName dialect old = .ok ())
    (acceptedNew : checkTableName dialect new = .ok ()) :
    (rename old new).names.forM (checkTableName dialect) = .ok () := by
  show (checkTableName dialect new >>= fun _ => checkTableName dialect old >>= fun _ => .ok ()) = _
  rw [acceptedNew, acceptedOld]
  rfl

/-- A renaming that is accepted is one statement.  In mysql it leaves the table where the new name
says, or in its own schema if that names none; in postgres it leaves the table in its own schema in
any case.  So the two agree exactly when the new name has no other schema. -/
theorem rename_moves_table (current : String) (schemas : dialect.supportsSchemas = true)
    (acceptedOld : checkTableName dialect old = .ok ())
    (acceptedNew : checkTableName dialect new = .ok ()) :
    ∃ onPostgres onMysql : Statement,
      (rename old new).described.statements .postgres = .ok [onPostgres] ∧
      (rename old new).sql .postgres = .ok [onPostgres.text .postgres] ∧
      (rename old new).described.statements .mysql = .ok [onMysql] ∧
      (rename old new).sql .mysql = .ok [onMysql.text .mysql] ∧
      onMysql.move? current = some (.ofName current old, (Place.ofName current old).renamed new) ∧
      onPostgres.move? current =
        some (.ofName current old, ⟨(Place.ofName current old).schema, Name.unqualified new⟩) ∧
      (onPostgres.move? current = onMysql.move? current ↔
        ∀ schema ∈ Name.schema? new, schema = (Place.ofName current old).schema) := by
  -- Postgres and mysql accept the same names, so what one accepts compiles in both.
  have compiles (other : Dialect) (otherSchemas : other.supportsSchemas = true) :
      (rename old new).described.statements other =
          .ok [renameTableOutput other (rename old new).described] ∧
        (rename old new).sql other =
          .ok [(renameTableOutput other (rename old new).described).text other] := by
    have same := schemas.trans otherSchemas.symm
    have namedOld := (checkTableName_congr same old).mp acceptedOld
    have namedNew := (checkTableName_congr same new).mp acceptedNew
    have compiled := rename_compiles namedOld namedNew
    exact ⟨compiled, sql_of_statements (rename_passes namedOld namedNew) compiled⟩
  obtain ⟨statementsPostgres, sqlPostgres⟩ := compiles .postgres rfl
  obtain ⟨statementsMysql, sqlMysql⟩ := compiles .mysql rfl
  have source := place?_segments current acceptedOld
  have target := place?_target current old acceptedNew
  have movesMysql : (renameTableOutput .mysql (rename old new).described).move? current =
      some (.ofName current old, (Place.ofName current old).renamed new) := by
    show (do return (← Sql.Path.place? current (Name.segments old), ← Sql.Path.place? current
      (if Name.isQualified new then Name.segments new else (Name.schema? old).toList ++ [new]))) = _
    rw [source, target]
    rfl
  have movesPostgres : (renameTableOutput .postgres (rename old new).described).move? current =
      some (.ofName current old, ⟨(Place.ofName current old).schema, Name.unqualified new⟩) := by
    show (Sql.Path.place? current (Name.segments old)).map _ = _
    rw [source]
    rfl
  refine ⟨_, _, statementsPostgres, sqlPostgres, statementsMysql, sqlMysql, movesMysql,
    movesPostgres, ?_⟩
  rw [movesMysql, movesPostgres, Place.renamed]
  cases Name.schema? new <;> simp [eq_comm]

/-- A new name in another schema takes the table there in mysql only. -/
theorem rename_moves_table_otherSchema :
    Dialect.postgres.supportsSchemas = true ∧
    checkTableName .postgres "app.users" = .ok () ∧
    checkTableName .postgres "archive.people" = .ok () ∧
    ∃ onPostgres onMysql : Statement,
      (rename "app.users" "archive.people").sql .postgres = .ok [onPostgres.text .postgres] ∧
      (rename "app.users" "archive.people").sql .mysql = .ok [onMysql.text .mysql] ∧
      onMysql.move? "public" = some (⟨"app", "users"⟩, ⟨"archive", "people"⟩) ∧
      onPostgres.move? "public" = some (⟨"app", "users"⟩, ⟨"app", "people"⟩) := by
  have schemas : Dialect.postgres.supportsSchemas = true := rfl
  have acceptedOld : checkTableName .postgres "app.users" = .ok () := by decide +kernel
  have acceptedNew : checkTableName .postgres "archive.people" = .ok () := by decide +kernel
  obtain ⟨onPostgres, onMysql, _, sqlPostgres, _, sqlMysql, movesMysql, movesPostgres, _⟩ :=
    rename_moves_table "public" schemas acceptedOld acceptedNew
  refine ⟨schemas, acceptedOld, acceptedNew, onPostgres, onMysql, sqlPostgres, sqlMysql, ?_, ?_⟩
  · rw [movesMysql]
    decide +kernel
  · rw [movesPostgres]
    decide +kernel

/-- In postgres the schema of the new name is lost: the table stays where it was. -/
theorem schema_lost_on_renaming :
    ∃ moved : Statement,
      (rename "app.users" "archive.users").described.statements .postgres = .ok [moved] ∧
      moved.text .postgres = "ALTER TABLE \"app\".\"users\" RENAME TO \"users\"" ∧
      ∀ current, moved.move? current = some (⟨"app", "users"⟩, ⟨"app", "users"⟩) ∧
        (Place.ofName current "app.users").renamed "archive.users" = ⟨"archive", "users"⟩ := by
  refine ⟨.alterTable ["app", "users"] [.renameTable "users"], by decide +kernel,
    by decide +kernel, fun _ => ⟨rfl, ?_⟩⟩
  have pair : Name.segments "archive.users" = ["archive", "users"] := by decide +kernel
  rw [Place.renamed, Name.schema?_of_pair pair, Name.unqualified_of_pair pair]
  rfl

end Request

end TablePlan

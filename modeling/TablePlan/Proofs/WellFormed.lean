import TablePlan.Proofs.Agreement
import TablePlan.Proofs.Commands

/-!
# Only well-formed plans compile

The checks of a plan stand at many places, and each is reached only by some commands.  Main
statement: whatever the commands and the dialect, what compiles is well formed, and in postgres and
mysql a creation compiles exactly when the plan is well formed and its names are not blank
(`toSql_wellFormed`).
-/

namespace TablePlan

open Text (isBlank)

/-! ## Well-formed plans -/

/-- A column has a name, an enumeration has values, and a number that is the default is finite. -/
structure Column.WellFormed (column : Column) : Prop where
  named : isBlank column.name = false
  hasValues : ∀ allowed, column.type = .enumeration allowed → allowed ≠ []
  finite : ∀ value, column.defaultValue = some (.float value) → value.isFinite = true

/-- The names that a column gives for its unique and its plain index, as far as it asks for them,
are not blank. -/
structure Column.FlagsNamed (column : Column) : Prop where
  unique : column.unique = true → ∀ name ∈ column.uniqueName, isBlank name = false
  index : column.index = true → ∀ name ∈ column.indexName, isBlank name = false

/-- An index covers columns, all of them named, and has no blank name of its own. -/
structure Index.WellFormed (index : Index) : Prop where
  covers : index.columns ≠ []
  columnsNamed : ∀ column ∈ index.columns, isBlank column = false
  named : ∀ name ∈ index.name, isBlank name = false

/-- A foreign key names its column, the referenced table and the referenced column. -/
structure ForeignKey.WellFormed (key : ForeignKey) : Prop where
  column : isBlank key.column = false
  referencedTable : isBlank key.referencedTable = false
  referencedColumn : isBlank key.referencedColumn = false

/-- All that a plan defines is well formed, and no two of its columns have the same name. -/
structure Plan.WellFormed (plan : Plan) : Prop where
  columns : ∀ column ∈ plan.columns, column.WellFormed
  distinct : (plan.columns.map Column.name).Nodup
  indexes : ∀ index ∈ plan.indexes, index.WellFormed
  foreignKeys : ∀ key ∈ plan.foreignKeys, key.WellFormed

namespace Compile

variable {dialect : Dialect} {plan : Plan}

/-! ## What the checks say -/

theorem isWellDefined_iff {column : Column} : IsWellDefined column ↔ column.WellFormed := by
  have finite : column.defaultValue.any DefaultValue.isNonFinite = false ↔
      ∀ value, column.defaultValue = some (.float value) → value.isFinite = true := by
    cases column.defaultValue with
    | none => simp
    | some value => cases value <;> simp [DefaultValue.isNonFinite]
  constructor
  · rintro ⟨named, hasValues, default⟩
    refine ⟨named, ?_, finite.mp default⟩
    rintro allowed type rfl
    exact hasValues type
  · rintro ⟨named, hasValues, default⟩
    exact ⟨named, fun type => hasValues [] type rfl, finite.mpr default⟩

theorem checkColumns_ok_iff : checkColumns plan = .ok () ↔
    (∀ column ∈ plan.columns, column.WellFormed) ∧ (plan.columns.map Column.name).Nodup := by
  simp only [checkColumns_eq_ok_iff, isWellDefined_iff]

theorem checkIndex_ok_iff {index : Index} : checkIndex plan index = .ok () ↔ index.WellFormed := by
  rw [checkIndex_eq_ok_iff]
  constructor
  · rintro ⟨covers, columnsNamed, named⟩
    exact ⟨covers, columnsNamed, named⟩
  · rintro ⟨covers, columnsNamed, named⟩
    exact ⟨covers, columnsNamed, named⟩

theorem checkForeignKey_ok_iff {key : ForeignKey} :
    checkForeignKey plan key = .ok () ↔ key.WellFormed := by
  rw [checkForeignKey_eq_ok_iff]
  constructor
  · rintro ⟨column, referencedTable, referencedColumn⟩
    exact ⟨column, referencedTable, referencedColumn⟩
  · rintro ⟨column, referencedTable, referencedColumn⟩
    exact ⟨column, referencedTable, referencedColumn⟩

/-- Indexes and foreign keys are checked behind every creation and every addition, among them the
indexes that columns ask for by flags. -/
theorem wellFormed_of_definitionsVerdict (passed : definitionsVerdict dialect plan = .ok ()) :
    (∀ index ∈ separateIndexes dialect plan, index.WellFormed) ∧
      ∀ key ∈ plan.foreignKeys, key.WellFormed := by
  obtain ⟨indexes, foreignKeys⟩ := bind_eq_ok_iff.mp passed
  constructor
  · intro index separate
    have checked := bind_eq_ok_iff.mp (forM_eq_ok_iff.mp indexes index separate)
    exact checkIndex_ok_iff.mp (bind_eq_ok_iff.mp checked.2).1
  · intro key listed
    have checked := bind_eq_ok_iff.mp (forM_eq_ok_iff.mp foreignKeys key listed)
    exact checkForeignKey_ok_iff.mp (bind_eq_ok_iff.mp checked.2).1

/-- A creation and an addition check all that a plan defines. -/
theorem wellFormed_of_commandVerdict {asked : Command} (full : asked.isCreate = true ∨ asked = .add)
    (passed : commandVerdict dialect plan asked = .ok ()) : plan.WellFormed := by
  have checked : checkColumns plan = .ok () ∧ definitionsVerdict dialect plan = .ok () := by
    cases asked with
    | create | createIfNotExists =>
      obtain ⟨table, definitions⟩ := bind_eq_ok_iff.mp passed
      exact ⟨((createTableVerdict_eq_ok_iff dialect).mp table).2.1, definitions⟩
    | add =>
      obtain ⟨addition, definitions⟩ := bind_eq_ok_iff.mp passed
      exact ⟨(bind_eq_ok_iff.mp (bind_eq_ok_iff.mp addition).2).1, definitions⟩
    | _ => simp [Command.isCreate] at full
  obtain ⟨columns, distinct⟩ := checkColumns_ok_iff.mp checked.1
  obtain ⟨indexes, foreignKeys⟩ := wellFormed_of_definitionsVerdict checked.2
  exact ⟨columns, distinct, fun index listed => indexes index (List.mem_append_right _ listed),
    foreignKeys⟩

/-- A change checks all columns, except in sqlite, where it passes only when nothing changes. -/
theorem checkColumns_of_changeColumnsVerdict (passed : changeColumnsVerdict dialect plan = .ok ())
    (changes : plan.changedColumns ≠ []) : checkColumns plan = .ok () := by
  have checked := (bind_eq_ok_iff.mp passed).2
  cases dialect with
  | postgres | mysql => exact checked
  | sqlite =>
    have none : plan.changedColumns = [] := by simpa using checked
    exact absurd none changes

end Compile

namespace Plan

open Compile

variable {dialect : Dialect} {plan : Plan}

/-- A plan whose commands pass is well formed: what it defines brings a command that checks it. -/
theorem wellFormed_of_verdict (passed : plan.verdict dialect = .ok ()) : plan.WellFormed := by
  have each := forM_eq_ok_iff.mp passed
  cases creating : plan.creating with
  | true =>
    obtain ⟨asked, listed, isCreate⟩ := exists_creation_mem_commands creating
    exact wellFormed_of_commandVerdict (.inl isCreate) (each asked listed)
  | false =>
    cases additions : plan.hasAdditions with
    | true =>
      have addition := each .add (add_mem_commands creating additions)
      exact wellFormed_of_commandVerdict (.inr rfl) addition
    | false =>
      obtain ⟨⟨new, noIndex⟩, noForeignKey⟩ :
          (plan.addedColumns = [] ∧ plan.indexes = []) ∧ plan.foreignKeys = [] := by
        simpa [hasAdditions] using additions
      have columns : (∀ column ∈ plan.columns, column.WellFormed) ∧
          (plan.columns.map Column.name).Nodup := by
        by_cases changes : plan.changedColumns = []
        · have none : plan.columns = [] := by
            rw [List.eq_nil_iff_forall_not_mem]
            intro column listed
            rw [addedColumns, List.filter_eq_nil_iff] at new
            rw [changedColumns, List.filter_eq_nil_iff] at changes
            have old := changes column listed
            exact new column listed (by simpa using old)
          simp [none]
        · have change := each .change (change_mem_commands creating changes)
          exact checkColumns_ok_iff.mp (checkColumns_of_changeColumnsVerdict change changes)
      exact ⟨columns.1, columns.2, by simp [noIndex], by simp [noForeignKey]⟩

end Plan

namespace Compile

variable {plan : Plan}

/-! ## Creations -/

/-- In postgres the flags of a named column have no fault but a blank name. -/
theorem flaggedIndexes_wellFormed_iff {column : Column} (named : isBlank column.name = false) :
    (∀ index ∈ flaggedIndexes .postgres column, index.WellFormed) ↔ column.FlagsNamed := by
  have flag (kind : IndexKind) : (flaggedIndex .postgres column kind).WellFormed ↔
      ∀ name ∈ (flaggedIndex .postgres column kind).name, isBlank name = false := by
    constructor
    · exact Index.WellFormed.named
    · intro own
      exact ⟨by simp [flaggedIndex], by simpa [flaggedIndex] using named, own⟩
  constructor
  · intro each
    constructor
    · intro asks
      refine (flag .unique).mp (each _ ?_)
      simp [flaggedIndexes, mem_only, isSeparateFlag, asksFor, asks]
    · intro asks
      refine (flag .index).mp (each _ ?_)
      simp [flaggedIndexes, mem_only, isSeparateFlag, asksFor, asks]
  · intro own index listed
    have cases : column.unique = true ∧ index = flaggedIndex .postgres column .unique ∨
        column.index = true ∧ index = flaggedIndex .postgres column .index := by
      simpa [flaggedIndexes, mem_only, isSeparateFlag, asksFor] using listed
    rcases cases with ⟨asks, rfl⟩ | ⟨asks, rfl⟩
    · exact (flag .unique).mpr (own.unique asks)
    · exact (flag .index).mpr (own.index asks)

/-- In postgres nothing but well-formedness is asked of an index. -/
theorem indexVerdict_postgres_ok_iff {index : Index} :
    indexVerdict .postgres plan index = .ok () ↔ isBlank plan.table = false ∧ index.WellFormed := by
  rw [indexVerdict, bind_eq_ok_iff, bind_eq_ok_iff, checkTable_eq_ok_iff, checkIndex_ok_iff]
  simp

theorem foreignKeyVerdict_postgres_ok_iff {key : ForeignKey} :
    foreignKeyVerdict .postgres plan key = .ok () ↔ isBlank plan.table = false ∧ key.WellFormed := by
  rw [foreignKeyVerdict, bind_eq_ok_iff, bind_eq_ok_iff, checkTable_eq_ok_iff,
    checkForeignKey_ok_iff]
  simp

/-- What is declared inside a new table has no fault that its definitions do not have. -/
theorem tableVerdicts_postgres (wellFormed : plan.WellFormed) :
    primaryKeyVerdict plan = .ok () ∧ inlineForeignKeysVerdict .postgres plan = .ok () := by
  constructor
  · unfold primaryKeyVerdict
    cases found : plan.indexes.find? fun index => index.kind = .primary with
    | none => rfl
    | some index =>
      exact checkIndex_ok_iff.mpr (wellFormed.indexes index (List.mem_of_find?_eq_some found))
  · unfold inlineForeignKeysVerdict
    split
    · rw [forM_eq_ok_iff]
      intro key listed
      exact checkForeignKey_ok_iff.mpr (wellFormed.foreignKeys key listed)
    · rfl

/-- In postgres a creation passes exactly when the plan is well formed and no name is blank. -/
theorem creationVerdict_postgres_ok_iff (creating : plan.creating = true) :
    (createTableVerdict .postgres plan >>= fun _ => definitionsVerdict .postgres plan) = .ok () ↔
      plan.WellFormed ∧ isBlank plan.table = false ∧
        ∀ column ∈ plan.columns, column.FlagsNamed := by
  rw [bind_eq_ok_iff, createTableVerdict_eq_ok_iff]
  constructor
  · rintro ⟨⟨table, columns, _⟩, definitions⟩
    obtain ⟨wellFormed, distinct⟩ := checkColumns_ok_iff.mp columns
    obtain ⟨indexes, foreignKeys⟩ := wellFormed_of_definitionsVerdict definitions
    have declared (index : Index) (listed : index ∈ plan.indexes) : index.WellFormed :=
      indexes index (List.mem_append_right _ listed)
    refine ⟨⟨wellFormed, distinct, declared, foreignKeys⟩, checkTable_eq_ok_iff.mp table, ?_⟩
    intro column listed
    rw [← flaggedIndexes_wellFormed_iff (wellFormed column listed).named]
    intro index flagged
    refine indexes index ?_
    rw [separateIndexes, flaggedColumns_of_creating plan creating]
    exact List.mem_append_left _ (List.mem_flatMap.mpr ⟨column, listed, flagged⟩)
  · rintro ⟨wellFormed, table, flags⟩
    have columns := checkColumns_ok_iff.mpr ⟨wellFormed.columns, wellFormed.distinct⟩
    obtain ⟨primary, foreign⟩ := tableVerdicts_postgres wellFormed
    refine ⟨⟨checkTable_eq_ok_iff.mpr table, columns, primary, rfl, rfl, foreign⟩, ?_⟩
    refine bind_eq_ok_iff.mpr ⟨forM_eq_ok_iff.mpr ?_, forM_eq_ok_iff.mpr ?_⟩
    · intro index separate
      refine indexVerdict_postgres_ok_iff.mpr ⟨table, ?_⟩
      rw [separateIndexes, flaggedColumns_of_creating plan creating, List.mem_append,
        List.mem_flatMap] at separate
      rcases separate with ⟨column, listed, flagged⟩ | declared
      · have named := (wellFormed.columns column listed).named
        exact (flaggedIndexes_wellFormed_iff named).mpr (flags column listed) index flagged
      · exact wellFormed.indexes index declared
    · intro key listed
      exact foreignKeyVerdict_postgres_ok_iff.mpr ⟨table, wellFormed.foreignKeys key listed⟩

end Compile

namespace Plan

open Compile

/-- A plan that asks for one creation and nothing else passes with that creation. -/
theorem verdict_of_creation {plan : Plan} {creation : Command} (kind : creation.isCreate = true)
    (alone : plan.requested = [creation]) (dialect : Dialect) :
    plan.creating = true ∧ (plan.verdict dialect = .ok () ↔
      (createTableVerdict dialect plan >>= fun _ => definitionsVerdict dialect plan) = .ok ()) := by
  have creating : plan.creating = true := by simp [Plan.creating, alone, kind]
  refine ⟨creating, ?_⟩
  have commands : plan.commands = [creation] := by simp [Plan.commands, creating, alone]
  rw [verdict, commands, forM_eq_ok_iff, List.forall_mem_singleton]
  cases creation with
  | create | createIfNotExists => exact Iff.rfl
  | _ => cases kind

/-- Whatever its commands are, a plan that compiles in some dialect is well formed.  A plan that
asks for its creation and nothing else compiles in postgres and mysql exactly when it is well
formed, its table has a name, and no column gives a blank name for an index that it asks for. -/
theorem toSql_wellFormed (plan : Plan) :
    (∀ dialect texts, plan.toSql dialect = .ok texts → plan.WellFormed) ∧
      ∀ dialect ≠ .sqlite, plan.requested = [.create] ∨ plan.requested = [.createIfNotExists] →
        ((∃ texts, plan.toSql dialect = .ok texts) ↔
          plan.WellFormed ∧ isBlank plan.table = false ∧
            ∀ column ∈ plan.columns, column.FlagsNamed) := by
  constructor
  · intro dialect texts compiled
    exact wellFormed_of_verdict ((toSql_splits dialect plan).eq_ok_iff.mp compiled).1
  · intro dialect notSqlite asked
    simp only [(toSql_splits dialect plan).eq_ok_iff, exists_and_left, exists_eq, and_true]
    obtain ⟨creation, kind, alone⟩ :
        ∃ creation : Command, creation.isCreate = true ∧ plan.requested = [creation] := by
      rcases asked with alone | alone
      · exact ⟨_, rfl, alone⟩
      · exact ⟨_, rfl, alone⟩
    obtain ⟨creating, verdict⟩ := verdict_of_creation kind alone dialect
    rw [verdict, ← creationVerdict_postgres_ok_iff creating]
    cases dialect with
    | sqlite => exact absurd rfl notSqlite
    | postgres => exact Iff.rfl
    | mysql => exact createVerdict_ok_postgres_iff_mysql.symm

/-- Sqlite drops the table and adds to it all the same, so what is added is well formed; asked for as
a creation it compiles in mysql. -/
theorem toSql_wellFormed_dropped :
    let dropped : Plan :=
      { table := "t"
        columns := [{ name := "a", type := .enumeration ["x"], index := true }]
        indexes := [{ kind := .fullText, columns := ["a"] }]
        foreignKeys := [{ column := "a", referencedColumn := "id", referencedTable := "u" }]
        requested := [.drop] }
    dropped.WellFormed ∧
      ∃ texts, { dropped with requested := [.createIfNotExists] }.toSql .mysql = .ok texts := by
  intro dropped
  have compiled : dropped.toSql .sqlite =
      .ok ["ALTER TABLE \"t\" ADD COLUMN \"a\" TEXT NOT NULL CHECK (\"a\" IN ('x')) " ++
          "REFERENCES \"u\" (\"id\")",
        "CREATE INDEX \"idx_t_a\" ON \"t\" (\"a\")", "DROP TABLE \"t\""] := by
    decide +kernel
  have wellFormed : dropped.WellFormed := (toSql_wellFormed dropped).1 .sqlite _ compiled
  have flags : ∀ column ∈ dropped.columns, column.FlagsNamed := by
    rw [List.forall_mem_singleton]
    exact ⟨nofun, fun _ => nofun⟩
  refine ⟨wellFormed, ?_⟩
  refine ((toSql_wellFormed _).2 .mysql (by decide) (.inr rfl)).mpr ⟨?_, by decide, flags⟩
  exact ⟨wellFormed.columns, wellFormed.distinct, wellFormed.indexes, wellFormed.foreignKeys⟩

end Plan

end TablePlan

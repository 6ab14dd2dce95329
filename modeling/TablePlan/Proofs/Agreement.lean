import TablePlan.Proofs.Outcome

/-!
# Postgres and mysql accept the same plans

The two dialects check at different places: under `IF NOT EXISTS` mysql looks at the indexes
already inside the creation of the table, and it never looks at the index of a unique flag without
a name.  Main statement: they accept exactly the same plans, and apart from `IF NOT EXISTS` they
refuse a plan with the same fault (`toSql_postgres_mysql`).
-/

namespace TablePlan.Compile

open Text (isBlank)

theorem indexVerdict_postgres_mysql (plan : Plan) (index : Index) :
    indexVerdict .postgres plan index = indexVerdict .mysql plan index := by
  simp [indexVerdict]

theorem foreignKeyVerdict_postgres_mysql (plan : Plan) (key : ForeignKey) :
    foreignKeyVerdict .postgres plan key = foreignKeyVerdict .mysql plan key := by
  simp [foreignKeyVerdict]

variable {plan : Plan}

/-- An index over one named column, without a name of its own, has no fault. -/
theorem indexVerdict_unnamed (table : checkTable plan = .ok ()) {column : Column}
    (named : isBlank column.name = false) :
    indexVerdict .postgres plan { kind := .unique, columns := [column.name] } = .ok () := by
  have index : checkIndex plan { kind := .unique, columns := [column.name] } = .ok () := by
    simp [checkIndex_eq_ok_iff, named]
  rw [indexVerdict, bind_eq_ok_iff, bind_eq_ok_iff]
  exact ⟨table, index, rfl⟩

/-- The flags of a named column have the same faults, whether or not its unnamed unique index is an
index of its own. -/
theorem flaggedIndexes_postgres_mysql (table : checkTable plan = .ok ()) {column : Column}
    (named : isBlank column.name = false) :
    (flaggedIndexes .postgres column).forM (indexVerdict .postgres plan) =
      (flaggedIndexes .mysql column).forM (indexVerdict .mysql plan) := by
  have unnamed := indexVerdict_unnamed table named
  simp only [flaggedIndexes, forM_append, forM_only, ← indexVerdict_postgres_mysql]
  cases unique : column.unique <;> cases name : column.uniqueName <;>
    simp [isSeparateFlag, asksFor, flaggedIndex, unique, name, unnamed]

theorem definitionsVerdict_postgres_mysql (table : checkTable plan = .ok ())
    (columns : checkColumns plan = .ok ()) :
    definitionsVerdict .postgres plan = definitionsVerdict .mysql plan := by
  have named (column : Column) (member : column ∈ flaggedColumns plan) :
      isBlank column.name = false := by
    have listed : column ∈ plan.columns := by
      unfold flaggedColumns Plan.addedColumns at member
      split at member
      · exact member
      · exact List.mem_of_mem_filter member
    exact ((checkColumns_eq_ok_iff.mp columns).1 column listed).1
  have flags := forM_congr fun column member =>
    flaggedIndexes_postgres_mysql table (named column member)
  have keys := forM_congr fun key (_ : key ∈ plan.foreignKeys) =>
    foreignKeyVerdict_postgres_mysql plan key
  have indexes := forM_congr fun index (_ : index ∈ plan.indexes) =>
    indexVerdict_postgres_mysql plan index
  unfold definitionsVerdict separateIndexes
  rw [forM_append, forM_append, forM_flatMap, forM_flatMap, flags, indexes, keys]

/-! ## Creation -/

/-- Outside `IF NOT EXISTS` nothing but the primary key is declared inside a new table. -/
theorem tableConstraintsVerdict_postgres_mysql (fresh : plan.ifNotExists = false) :
    tableConstraintsVerdict .postgres plan = tableConstraintsVerdict .mysql plan := by
  simp [tableConstraintsVerdict, autoincrementVerdict, inlineKeysVerdict, inlineForeignKeysVerdict,
    declaresKeysInline, constrainsInline, fresh]

/-- The keys inside a table have no fault that the indexes after it do not have. -/
theorem inlineKeysVerdict_of_definitionsVerdict (passed : definitionsVerdict .mysql plan = .ok ()) :
    inlineKeysVerdict .mysql plan = .ok () := by
  unfold inlineKeysVerdict
  split
  · next inline =>
    have ifNotExists : plan.ifNotExists = true := by simpa [declaresKeysInline] using inline
    have creating : plan.creating = true := by
      have requested : Command.createIfNotExists ∈ plan.requested := by
        simpa [Plan.ifNotExists] using ifNotExists
      exact List.any_eq_true.mpr ⟨_, requested, rfl⟩
    have separate := forM_eq_ok_iff.mp (bind_eq_ok_iff.mp passed).1
    rw [forM_eq_ok_iff, inlineIndexes_eq_filter plan creating]
    intro index member
    have checked := separate index (List.mem_of_mem_filter member)
    exact (bind_eq_ok_iff.mp (bind_eq_ok_iff.mp checked).2).1
  · rfl

theorem createTableVerdict_eq_ok_iff (dialect : Dialect) :
    createTableVerdict dialect plan = .ok () ↔ checkTable plan = .ok () ∧ checkColumns plan = .ok () ∧
      primaryKeyVerdict plan = .ok () ∧ autoincrementVerdict dialect plan = .ok () ∧
      inlineKeysVerdict dialect plan = .ok () ∧ inlineForeignKeysVerdict dialect plan = .ok () := by
  simp only [createTableVerdict, tableConstraintsVerdict, bind_eq_ok_iff, and_assoc]

/-- A plan that creates its table passes in both dialects or in none. -/
theorem createVerdict_ok_postgres_iff_mysql :
    (createTableVerdict .postgres plan >>= fun _ => definitionsVerdict .postgres plan) = .ok () ↔
      (createTableVerdict .mysql plan >>= fun _ => definitionsVerdict .mysql plan) = .ok () := by
  simp only [bind_eq_ok_iff, createTableVerdict_eq_ok_iff]
  constructor
  · rintro ⟨⟨table, columns, primary, _, _, foreign⟩, passed⟩
    rw [definitionsVerdict_postgres_mysql table columns] at passed
    have keys := inlineKeysVerdict_of_definitionsVerdict passed
    exact ⟨⟨table, columns, primary, rfl, keys, foreign⟩, passed⟩
  · rintro ⟨⟨table, columns, primary, _, _, foreign⟩, passed⟩
    rw [← definitionsVerdict_postgres_mysql table columns] at passed
    exact ⟨⟨table, columns, primary, rfl, rfl, foreign⟩, passed⟩

/-! ## Commands -/

theorem addVerdict_postgres_mysql :
    commandVerdict .postgres plan .add = commandVerdict .mysql plan .add := by
  apply bind_congr_of_ok
  intro passed
  obtain ⟨table, rest⟩ := bind_eq_ok_iff.mp passed
  exact definitionsVerdict_postgres_mysql table (bind_eq_ok_iff.mp rest).1

/-- Outside `IF NOT EXISTS` each command has the same verdict in both dialects. -/
theorem commandVerdict_postgres_mysql (fresh : plan.ifNotExists = false) (asked : Command) :
    commandVerdict .postgres plan asked = commandVerdict .mysql plan asked := by
  cases asked with
  | create | createIfNotExists =>
    have created : createTableVerdict .postgres plan = createTableVerdict .mysql plan := by
      simp only [createTableVerdict, tableConstraintsVerdict_postgres_mysql fresh]
    simp only [commandVerdict, created]
    apply bind_congr_of_ok
    intro passed
    obtain ⟨table, columns, _⟩ := (createTableVerdict_eq_ok_iff .mysql).mp passed
    exact definitionsVerdict_postgres_mysql table columns
  | add => exact addVerdict_postgres_mysql
  | _ => rfl

/-- Each command passes in both dialects or in none. -/
theorem commandVerdict_ok_postgres_iff_mysql (asked : Command) :
    commandVerdict .postgres plan asked = .ok () ↔ commandVerdict .mysql plan asked = .ok () := by
  cases asked with
  | create | createIfNotExists => exact createVerdict_ok_postgres_iff_mysql
  | add => rw [addVerdict_postgres_mysql]
  | _ => exact Iff.rfl

end TablePlan.Compile

namespace TablePlan.Plan

open Compile

/-- The command that sets the two dialects apart is never implied. -/
theorem ifNotExists_eq_false_of_notMem {plan : Plan} (absent : .createIfNotExists ∉ plan.commands) :
    plan.ifNotExists = false := by
  have kept (needed : Bool) (command : Command) (commands : List Command)
      (absent : .createIfNotExists ∉ lead needed command commands) :
      Command.createIfNotExists ∉ commands := by
    intro member
    apply absent
    unfold lead
    split
    · exact List.mem_cons_of_mem _ member
    · exact member
  have requested : Command.createIfNotExists ∉ plan.requested := by
    unfold commands at absent
    split at absent
    · exact absent
    · exact kept _ _ _ (kept _ _ _ absent)
  simpa [ifNotExists] using requested

/-- A plan compiles in postgres exactly when it compiles in mysql, and a plan that does not ask for
`IF NOT EXISTS` is refused by both with the same fault. -/
theorem toSql_postgres_mysql (plan : Plan) :
    ((∃ texts, plan.toSql .postgres = .ok texts) ↔ ∃ texts, plan.toSql .mysql = .ok texts) ∧
      (.createIfNotExists ∉ plan.commands → ∀ fault,
        plan.toSql .postgres = .error fault ↔ plan.toSql .mysql = .error fault) := by
  constructor
  · simp only [(toSql_splits _ plan).eq_ok_iff, exists_and_left, exists_eq, and_true]
    unfold verdict
    rw [forM_eq_ok_iff, forM_eq_ok_iff]
    exact forall₂_congr fun asked _ => commandVerdict_ok_postgres_iff_mysql asked
  · intro absent fault
    have fresh := ifNotExists_eq_false_of_notMem absent
    have same : plan.verdict .postgres = plan.verdict .mysql :=
      forM_congr fun asked _ => commandVerdict_postgres_mysql fresh asked
    rw [(toSql_splits _ plan).eq_error_iff, (toSql_splits _ plan).eq_error_iff, same]

/-- A renaming without a name is refused alike, behind a unique column that only postgres gives an
index of its own. -/
theorem toSql_postgres_mysql_missingNewName :
    let plan : Plan :=
      { table := "t"
        columns := [{ name := "a", type := .text, unique := true }]
        requested := [.rename] }
    plan.toSql .postgres = .error (.missingNewName "t") ∧
      plan.toSql .mysql = .error (.missingNewName "t") := by
  intro plan
  have refused : plan.toSql .postgres = .error (.missingNewName "t") := by decide
  have absent : .createIfNotExists ∉ plan.commands := by decide
  exact ⟨refused, ((toSql_postgres_mysql plan).2 absent _).mp refused⟩

end TablePlan.Plan

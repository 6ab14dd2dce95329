import Mathlib.Data.List.Forall2
import TablePlan.Proofs.Agreement
import TablePlan.Proofs.Guards

/-!
# Creating a table unless it exists

A creation that may be repeated takes other ways than a plain one: its statements carry a guard, and
what mysql and postgres cannot guard moves into the table.  Main statement: the two creations compile
for the same descriptions and describe the same table, and every statement of the repeatable one is
guarded (`creations_agree`).
-/

namespace TablePlan

/-! ## Descriptions -/

/-- Whether the step describes the table by columns, indexes, foreign keys, options or a comment. -/
def Step.describes : Step → Bool
  | .engine _ | .charset _ | .collation _ | .comment _ | .column .. | .index .. | .foreignKey .. =>
    true
  | _ => false

namespace Plan

/-- The plan with one more command in front of those that it asks for. -/
def startingWith (plan : Plan) (first : Command) : Plan :=
  { plan with requested := first :: plan.requested }

@[simp] theorem indexName_startingWith (plan : Plan) (first : Command) (index : Index) :
    (plan.startingWith first).indexName index = plan.indexName index := rfl

@[simp] theorem tablePath_startingWith (plan : Plan) (first : Command) :
    Compile.tablePath (plan.startingWith first) = Compile.tablePath plan := rfl

theorem apply_startingWith (plan : Plan) {first : Command} (other : first ≠ .comment) {step : Step}
    (describes : step.describes = true) :
    (plan.startingWith first).apply step = (plan.apply step).startingWith first := by
  cases step with
  | engine | charset | collation | column | index | foreignKey => rfl
  | comment text =>
    have same : .comment ∈ first :: plan.requested ↔ .comment ∈ plan.requested := by
      simp [other.symm]
    by_cases asked : .comment ∈ plan.requested
    · simp [apply, request, startingWith, asked]
    · simp [apply, request, startingWith, asked, other.symm]
  | _ => cases describes

theorem foldl_apply_startingWith (plan : Plan) {first : Command} (other : first ≠ .comment)
    {steps : List Step} (describing : ∀ step ∈ steps, step.describes = true) :
    steps.foldl apply (plan.startingWith first) = (steps.foldl apply plan).startingWith first := by
  induction steps generalizing plan with
  | nil => rfl
  | cons step rest ih =>
    obtain ⟨describes, others⟩ := List.forall_mem_cons.mp describing
    rw [List.foldl_cons, List.foldl_cons, apply_startingWith plan other describes, ih _ others]

/-- The plan asks for nothing but a comment. -/
def Describes (plan : Plan) : Prop :=
  ∀ asked ∈ plan.requested, asked = .comment

theorem describes_build (table : String) {steps : List Step}
    (describing : ∀ step ∈ steps, step.describes = true) : (build table steps).Describes := by
  have run : ∀ plan : Plan, plan.Describes → (steps.foldl apply plan).Describes := by
    induction steps with
    | nil => exact fun _ only => only
    | cons step rest ih =>
      obtain ⟨describes, others⟩ := List.forall_mem_cons.mp describing
      intro plan only
      apply ih others
      cases step with
      | engine | charset | collation | column | index | foreignKey => exact only
      | comment text =>
        intro asked member
        rcases mem_requested_request.mp member with earlier | rfl
        · exact only asked earlier
        · rfl
      | _ => cases describes
  exact run { table } nofun

end Plan

namespace Compile

open Sql

/-- The indexes that go with the creation of a table: those of flags, then the declared ones. -/
def newIndexes (dialect : Dialect) (plan : Plan) : List Index :=
  plan.columns.flatMap (flaggedIndexes dialect) ++ plan.indexes

theorem separateIndexes_of_creating {dialect : Dialect} {plan : Plan}
    (creating : plan.creating = true) : separateIndexes dialect plan = newIndexes dialect plan := by
  rw [separateIndexes, flaggedColumns_of_creating plan creating, newIndexes]

/-! ## What a creation checks -/

/-- What a plan that creates its table has to pass, whether it may be repeated or not. -/
structure Creatable (dialect : Dialect) (plan : Plan) : Prop where
  table : checkTable plan = .ok ()
  columns : checkColumns plan = .ok ()
  primaryKey : primaryKeyVerdict plan = .ok ()
  autoincrement : autoincrementVerdict dialect plan = .ok ()
  indexes : ∀ index ∈ newIndexes dialect plan, checkIndex plan index = .ok ()
  foreignKeys : ∀ key ∈ plan.foreignKeys, checkForeignKey plan key = .ok ()

section
variable {dialect : Dialect} {plan : Plan}

theorem definitionsVerdict_ok_iff (creating : plan.creating = true)
    (table : checkTable plan = .ok ()) :
    definitionsVerdict dialect plan = .ok () ↔
      (∀ index ∈ newIndexes dialect plan, checkIndex plan index = .ok ()) ∧
      ∀ key ∈ plan.foreignKeys, checkForeignKey plan key = .ok () := by
  have ofIndex (index : Index) :
      indexVerdict dialect plan index = .ok () ↔ checkIndex plan index = .ok () := by
    rw [indexVerdict, bind_eq_ok_iff, bind_eq_ok_iff]
    simp [table, creating, refuseIf]
  have ofKey (key : ForeignKey) :
      foreignKeyVerdict dialect plan key = .ok () ↔ checkForeignKey plan key = .ok () := by
    rw [foreignKeyVerdict, bind_eq_ok_iff, bind_eq_ok_iff]
    cases dialect <;> simp [table, creating, refuseIf, declaresForeignKeyInline]
  rw [definitionsVerdict, separateIndexes_of_creating creating, bind_eq_ok_iff, forM_eq_ok_iff,
    forM_eq_ok_iff]
  simp only [ofIndex, ofKey]

/-- A creation passes exactly when these checks do. -/
theorem creationVerdict_ok_iff (creating : plan.creating = true) :
    (createTableVerdict dialect plan >>= fun _ => definitionsVerdict dialect plan) = .ok () ↔
      Creatable dialect plan := by
  rw [bind_eq_ok_iff, createTableVerdict_eq_ok_iff]
  constructor
  · rintro ⟨⟨table, columns, primaryKey, autoincrement, _⟩, definitions⟩
    obtain ⟨indexes, foreignKeys⟩ := (definitionsVerdict_ok_iff creating table).mp definitions
    exact ⟨table, columns, primaryKey, autoincrement, indexes, foreignKeys⟩
  · intro creatable
    -- What stands inside the table is refused by the same checks as what stands behind it.
    have definitions : definitionsVerdict dialect plan = .ok () :=
      (definitionsVerdict_ok_iff creating creatable.table).mpr
        ⟨creatable.indexes, creatable.foreignKeys⟩
    have keys : inlineKeysVerdict dialect plan = .ok () := by
      cases dialect with
      | mysql => exact inlineKeysVerdict_of_definitionsVerdict definitions
      | postgres | sqlite => rfl
    have foreignKeys : inlineForeignKeysVerdict dialect plan = .ok () := by
      unfold inlineForeignKeysVerdict
      split
      · exact forM_eq_ok_iff.mpr creatable.foreignKeys
      · rfl
    exact ⟨⟨creatable.table, creatable.columns, creatable.primaryKey, creatable.autoincrement, keys,
      foreignKeys⟩, definitions⟩

end

end Compile

namespace Plan

open Compile Sql

section
variable {dialect : Dialect} {plan : Plan} (describing : plan.Describes)
  {creation : Command} (creates : creation.isCreate = true)

include creates in
theorem creating_startingWith : (plan.startingWith creation).creating = true := by
  simp [creating, startingWith, creates]

include creates in
theorem commands_startingWith :
    (plan.startingWith creation).commands = creation :: plan.requested := by
  rw [commands, if_pos (creating_startingWith creates)]
  rfl

include describing creates in
/-- A description compiles or not, whichever way its table is created. -/
theorem verdict_startingWith :
    (plan.startingWith creation).verdict dialect = .ok () ↔ Creatable dialect plan := by
  have created : commandVerdict dialect (plan.startingWith creation) creation = .ok () ↔
      Creatable dialect (plan.startingWith creation) := by
    rw [← creationVerdict_ok_iff (creating_startingWith creates)]
    cases creation with
    | create | createIfNotExists => exact Iff.rfl
    | _ => cases creates
  have commented (table : checkTable plan = .ok ()) (asked : Command)
      (listed : asked ∈ plan.requested) :
      commandVerdict dialect (plan.startingWith creation) asked = .ok () := by
    rw [describing asked listed]
    show (if dialect = .sqlite then _ else checkTable plan) = _
    rw [table, ite_self]
  rw [verdict, commands_startingWith creates, forM_eq_ok_iff, List.forall_mem_cons, created]
  constructor
  · rintro ⟨⟨table, columns, primaryKey, autoincrement, indexes, foreignKeys⟩, -⟩
    exact ⟨table, columns, primaryKey, autoincrement, indexes, foreignKeys⟩
  · rintro ⟨table, columns, primaryKey, autoincrement, indexes, foreignKeys⟩
    exact ⟨⟨table, columns, primaryKey, autoincrement, indexes, foreignKeys⟩, commented table⟩

end

section
variable {plan : Plan} (describing : plan.Describes)
include describing

@[simp] theorem ifNotExists_startingWith_create :
    (plan.startingWith .create).ifNotExists = false := by
  have absent : Command.createIfNotExists ∉ plan.requested := by
    intro listed
    cases describing _ listed
  simpa [ifNotExists, startingWith] using absent

omit describing in
@[simp] theorem ifNotExists_startingWith_createIfNotExists :
    (plan.startingWith .createIfNotExists).ifNotExists = true := by
  simp [ifNotExists, startingWith]

end

end Plan

namespace Compile

open Sql

/-! ## What a creation gives out -/

section
variable (dialect : Dialect) (plan : Plan)

/-- The statement that creates the table of a plan. -/
def newTable : Statement :=
  .createTable plan.ifNotExists (tablePath plan)
    (plan.columns.map (fun column => .column (columnDefinition dialect plan column)) ++
      tableConstraintsOutput dialect plan)
    (tableOptions dialect plan)

/-- What a repeatable table holds besides the elements of a plain one: keys and foreign keys that
could not be added to it twice. -/
def movedElements : List TableElement :=
  if dialect = .sqlite then []
  else inlineKeysOutput dialect (plan.startingWith .createIfNotExists) ++
    (plan.foreignKeys.map (foreignKeyConstraint plan)).map .constraint

/-- The statements of their own that a plain creation gives to the indexes. -/
def plainIndexes : List Statement :=
  (newIndexes dialect plan).filterMap (indexOutput dialect (plan.startingWith .create))

/-- The statements that attach the comments of a new table. -/
def newTableComments : List Statement :=
  plan.requested.flatMap fun _ =>
    if dialect = .postgres then plan.comment.toList.map (.commentOnTable (tablePath plan)) else []

end

variable {dialect : Dialect} {plan : Plan}

theorem isComment_columnComments {statement : Statement}
    (listed : statement ∈ columnComments dialect plan plan.columns) : statement.isComment = true := by
  obtain ⟨column, text, rfl⟩ := exists_of_mem_columnComments listed
  rfl

theorem isComment_newTableComments {statement : Statement}
    (listed : statement ∈ newTableComments dialect plan) : statement.isComment = true := by
  obtain ⟨_, _, attached⟩ := List.mem_flatMap.mp listed
  split at attached
  · obtain ⟨text, _, rfl⟩ := List.mem_map.mp attached
    rfl
  · cases attached

/-- Nothing but the statements of its indexes creates an index. -/
theorem isIndexText_around {creation : Command} (keys : List ForeignKey) {statement : Statement}
    (listed : statement ∈
      (newTable dialect (plan.startingWith creation) :: columnComments dialect plan plan.columns) ++
        (keys.map (foreignKeyAddition plan) ++ newTableComments dialect plan)) :
    isIndexText (statement.text dialect) = false := by
  apply isIndexText_other
  rw [List.mem_append, List.mem_cons, List.mem_append] at listed
  rcases listed with (rfl | ofColumn) | ofKey | ofTable
  · exact .inr (.inl rfl)
  · exact .inl (isComment_columnComments ofColumn)
  · obtain ⟨key, _, rfl⟩ := List.mem_map.mp ofKey
    exact .inr (.inr ⟨_, _, rfl⟩)
  · exact .inl (isComment_newTableComments ofTable)

theorem tableCommentOutput_of_creating (creating : plan.creating = true) :
    tableCommentOutput dialect plan =
      if dialect = .postgres then plan.comment.toList.map (.commentOnTable (tablePath plan))
      else [] := by
  cases dialect with
  | postgres | sqlite => rfl
  | mysql => simp [tableCommentOutput, creating]

/-- Behind a creation the statement of an index creates it; only mysql knows no guard for it and has
more words in front of it than `UNIQUE`. -/
theorem exists_createIndex (creating : plan.creating = true) {index : Index} {statement : Statement}
    (given : indexOutput dialect plan index = some statement) :
    ∃ creation, statement = .createIndex creation ∧
      creation.ifNotExists = (plan.ifNotExists && dialect != .mysql) ∧
      (dialect ≠ .mysql → creation.qualifier = "" ∨ creation.qualifier = "UNIQUE ") := by
  have created : indexCreation? dialect plan index = some statement := by
    unfold indexOutput at given
    split at given
    · simp [creating] at given
    · split at given
      · cases given
      · exact given
  unfold indexCreation? at created
  split at created
  · cases created
    exact ⟨_, rfl, rfl, fun _ => .inr rfl⟩
  · cases dialect with
    | postgres =>
      cases created
      exact ⟨_, rfl, (Bool.and_true _).symm, fun _ => .inl rfl⟩
    | mysql =>
      cases created
      exact ⟨_, rfl, rfl, fun notMysql => absurd rfl notMysql⟩
    | sqlite => cases created
  · cases created
    exact ⟨_, rfl, rfl, fun _ => .inl rfl⟩

/-- The definition of a column does not depend on the way its table is created. -/
theorem columnDefinition_startingWith {creation : Command} (creates : creation.isCreate = true)
    (column : Column) :
    columnDefinition dialect (plan.startingWith creation) column =
      columnDefinition dialect (plan.startingWith .create) column := by
  cases dialect with
  | postgres | mysql => rfl
  | sqlite =>
    simp only [columnDefinition, sqliteClauses, Plan.creating_startingWith creates,
      Plan.creating_startingWith (rfl : Command.create.isCreate = true), if_true]

/-- Among the elements of a new table only the keys of its indexes are keys. -/
theorem inlineKeys_newTable :
    (newTable dialect plan).inlineKeys =
      (inlineKeysOutput dialect plan).flatMap TableElement.keys := by
  have columns : (plan.columns.map fun column =>
      TableElement.column (columnDefinition dialect plan column)).flatMap TableElement.keys = [] := by
    simp [List.flatMap_map, TableElement.keys]
  have primary : (primaryKeyElementsOutput dialect plan).flatMap TableElement.keys = [] := by
    unfold primaryKeyElementsOutput
    split <;> simp [List.flatMap_map, TableElement.keys]
  have foreign : ((inlineForeignKeysOutput dialect plan).map
      TableElement.constraint).flatMap TableElement.keys = [] := by
    simp [List.flatMap_map, TableElement.keys]
  rw [newTable, Statement.inlineKeys, tableConstraintsOutput, List.flatMap_append,
    List.flatMap_append, List.flatMap_append, columns, primary, foreign, List.append_nil,
    List.nil_append, List.nil_append]

/-- Among the elements of a new table only the foreign keys of the plan are foreign keys. -/
theorem inlineForeignKeys_newTable :
    (newTable dialect plan).inlineForeignKeys = inlineForeignKeysOutput dialect plan := by
  have columns : (plan.columns.map fun column =>
      TableElement.column (columnDefinition dialect plan column)).flatMap
        TableElement.foreignKeys = [] := by
    simp [List.flatMap_map, TableElement.foreignKeys]
  have primary : (primaryKeyElementsOutput dialect plan).flatMap TableElement.foreignKeys = [] := by
    unfold primaryKeyElementsOutput
    split <;> simp [List.flatMap_map, TableElement.foreignKeys, Constraint.foreignKeys]
  have keys : (inlineKeysOutput dialect plan).flatMap TableElement.foreignKeys = [] := by
    unfold inlineKeysOutput
    split <;> simp [List.flatMap_map, TableElement.foreignKeys, keyElement]
  have foreign : ((inlineForeignKeysOutput dialect plan).map
      TableElement.constraint).flatMap TableElement.foreignKeys =
        inlineForeignKeysOutput dialect plan := by
    unfold inlineForeignKeysOutput
    split
    · rw [List.flatMap_map, List.flatMap_map, List.map_eq_flatMap]
      rfl
    · rfl
  rw [newTable, Statement.inlineForeignKeys, tableConstraintsOutput, List.flatMap_append,
    List.flatMap_append, List.flatMap_append, columns, primary, keys, foreign, List.nil_append,
    List.nil_append, List.nil_append]

section
variable (describing : plan.Describes)
include describing

/-- A creation creates the table, attaches comments to its columns, adds what the table does not hold
and attaches a comment to the table. -/
theorem output_startingWith {creation : Command} (creates : creation.isCreate = true) :
    (plan.startingWith creation).output dialect =
      newTable dialect (plan.startingWith creation) :: columnComments dialect plan plan.columns ++
        definitionsOutput dialect (plan.startingWith creation) ++ newTableComments dialect plan := by
  have created : commandOutput dialect (plan.startingWith creation) creation =
      newTable dialect (plan.startingWith creation) :: columnComments dialect plan plan.columns ++
        definitionsOutput dialect (plan.startingWith creation) := by
    unfold newTable
    cases creation with
    | create =>
      rw [Plan.ifNotExists_startingWith_create describing]
      rfl
    | createIfNotExists =>
      rw [Plan.ifNotExists_startingWith_createIfNotExists]
      rfl
    | _ => cases creates
  have commented : plan.requested.flatMap (commandOutput dialect (plan.startingWith creation)) =
      newTableComments dialect plan := by
    refine List.flatMap_congr fun asked listed => ?_
    rw [describing asked listed]
    exact tableCommentOutput_of_creating (Plan.creating_startingWith creates)
  rw [Plan.output, Plan.commands_startingWith creates, List.flatMap_cons, created, commented]

/-! ### Indexes -/

/-- Apart from mysql, a repeatable creation gives an index the statement of a plain one, guarded. -/
theorem indexOutput_createIfNotExists (notMysql : dialect ≠ .mysql) (index : Index) :
    indexOutput dialect (plan.startingWith .createIfNotExists) index =
      (indexOutput dialect (plan.startingWith .create) index).map Statement.guardIndex := by
  have plain := Plan.ifNotExists_startingWith_create describing
  have creating : (plan.startingWith .create).creating = true := Plan.creating_startingWith rfl
  have creating' : (plan.startingWith .createIfNotExists).creating = true :=
    Plan.creating_startingWith rfl
  rcases index with ⟨kind, columns, name, method⟩
  cases dialect with
  | mysql => exact absurd rfl notMysql
  | postgres | sqlite =>
    cases kind <;>
      simp [indexOutput, indexCreation?, declaresKeysInline, creating, creating', plainIndex,
        uniqueIndex, fullTextIndex?, indexCreation, Statement.guardIndex, plain]

/-- A plain creation gives an index an unguarded statement. -/
theorem isPlainIndex_of_mem (notMysql : dialect ≠ .mysql) {statement : Statement}
    (listed : statement ∈ plainIndexes dialect plan) : statement.IsPlainIndex := by
  obtain ⟨index, _, given⟩ := List.mem_filterMap.mp listed
  obtain ⟨creation, rfl, guard, qualifier⟩ :=
    exists_createIndex (Plan.creating_startingWith rfl) given
  rw [Plan.ifNotExists_startingWith_create describing] at guard
  exact ⟨guard, qualifier notMysql⟩

theorem definitionsOutput_create :
    definitionsOutput dialect (plan.startingWith .create) = plainIndexes dialect plan ++
      if dialect = .sqlite then [] else plan.foreignKeys.map (foreignKeyAddition plan) := by
  have plain := Plan.ifNotExists_startingWith_create describing
  have creating : (plan.startingWith .create).creating = true := Plan.creating_startingWith rfl
  have keys : (plan.startingWith .create).foreignKeys.filterMap
      (foreignKeyOutput dialect (plan.startingWith .create)) =
        if dialect = .sqlite then [] else plan.foreignKeys.map (foreignKeyAddition plan) := by
    rw [← List.filterMap_eq_map]
    cases dialect with
    | sqlite => exact List.filterMap_eq_nil_iff.mpr fun key _ => by simp [foreignKeyOutput]
    | postgres | mysql =>
      refine List.filterMap_congr fun key _ => ?_
      simp [foreignKeyOutput, declaresForeignKeyInline, plain]
      rfl
  rw [definitionsOutput, separateIndexes_of_creating creating, keys]
  rfl

/-- Behind a repeatable creation stand the guarded indexes; mysql has them inside the table. -/
theorem definitionsOutput_createIfNotExists :
    definitionsOutput dialect (plan.startingWith .createIfNotExists) =
      if dialect = .mysql then [] else (plainIndexes dialect plan).map Statement.guardIndex := by
  have creating : (plan.startingWith .createIfNotExists).creating = true :=
    Plan.creating_startingWith rfl
  have keys : (plan.startingWith .createIfNotExists).foreignKeys.filterMap
      (foreignKeyOutput dialect (plan.startingWith .createIfNotExists)) = [] := by
    refine List.filterMap_eq_nil_iff.mpr fun key _ => ?_
    cases dialect <;> simp [foreignKeyOutput, declaresForeignKeyInline]
  rw [definitionsOutput, separateIndexes_of_creating creating, keys, List.append_nil]
  split
  · next mysql =>
    refine List.filterMap_eq_nil_iff.mpr fun index _ => ?_
    simp [indexOutput, declaresKeysInline, mysql, creating]
  · next notMysql =>
    rw [plainIndexes, List.map_filterMap]
    exact List.filterMap_congr fun index _ =>
      indexOutput_createIfNotExists describing notMysql index

theorem isRepeatable_output :
    ∀ statement ∈ (plan.startingWith .createIfNotExists).output dialect,
      statement.IsRepeatable := by
  rw [output_startingWith describing rfl, definitionsOutput_createIfNotExists describing]
  intro statement listed
  rw [List.mem_append, List.mem_append, List.mem_cons] at listed
  rcases listed with ((rfl | ofColumn) | ofIndex) | ofTable
  · exact Plan.ifNotExists_startingWith_createIfNotExists
  · exact isRepeatable_of_isComment (isComment_columnComments ofColumn)
  · split at ofIndex
    · cases ofIndex
    · next notMysql =>
      obtain ⟨plain, member, rfl⟩ := List.mem_map.mp ofIndex
      exact isRepeatable_guardIndex (isPlainIndex_of_mem describing notMysql member)
  · exact isRepeatable_of_isComment (isComment_newTableComments ofTable)

/-- A plain creation creates an index by statements that have to be guarded; a repeatable one guards
them. -/
theorem forall₂_addsGuard (notMysql : dialect ≠ .mysql) :
    List.Forall₂ AddsGuard
      ((((plan.startingWith .create).output dialect).map (Statement.text dialect)).filter
        isIndexText)
      ((((plan.startingWith .createIfNotExists).output dialect).map
        (Statement.text dialect)).filter isIndexText) := by
  have guards (statement : Statement) (listed : statement ∈ plainIndexes dialect plan) :=
    addsGuard_text dialect (isPlainIndex_of_mem describing notMysql listed)
  have plain : (((plan.startingWith .create).output dialect).map
      (Statement.text dialect)).filter isIndexText =
      (plainIndexes dialect plan).map (Statement.text dialect) := by
    obtain ⟨keys, additions⟩ : ∃ keys : List ForeignKey,
        (if dialect = .sqlite then [] else plan.foreignKeys.map (foreignKeyAddition plan)) =
          keys.map (foreignKeyAddition plan) := by
      split
      · exact ⟨[], rfl⟩
      · exact ⟨plan.foreignKeys, rfl⟩
    rw [output_startingWith describing rfl, definitionsOutput_create describing, additions,
      ← List.append_assoc, List.append_assoc _ _ (newTableComments dialect plan)]
    exact filter_isIndexText (fun statement listed =>
      (isIndexText_of_addsGuard (guards statement listed)).1) fun _ => isIndexText_around keys
  have guarded : (((plan.startingWith .createIfNotExists).output dialect).map
      (Statement.text dialect)).filter isIndexText =
      ((plainIndexes dialect plan).map Statement.guardIndex).map (Statement.text dialect) := by
    rw [output_startingWith describing rfl, definitionsOutput_createIfNotExists describing,
      if_neg notMysql]
    refine filter_isIndexText ?_ fun _ listed => isIndexText_around [] listed
    intro statement listed
    obtain ⟨unguarded, member, rfl⟩ := List.mem_map.mp listed
    exact (isIndexText_of_addsGuard (guards unguarded member)).2
  rw [plain, guarded, List.map_map, List.forall₂_map_left_iff, List.forall₂_map_right_iff]
  exact List.forall₂_same.mpr guards

/-! ### The table and its comments -/

theorem tableConstraintsOutput_createIfNotExists :
    tableConstraintsOutput dialect (plan.startingWith .createIfNotExists) =
      tableConstraintsOutput dialect (plan.startingWith .create) ++ movedElements dialect plan := by
  have plain := Plan.ifNotExists_startingWith_create describing
  cases dialect with
  | sqlite => exact (List.append_nil _).symm
  | postgres | mysql =>
    have bare (dialect : Dialect) (notSqlite : dialect ≠ .sqlite) :
        tableConstraintsOutput dialect (plan.startingWith .create) =
          primaryKeyElementsOutput dialect (plan.startingWith .create) := by
      simp [tableConstraintsOutput, inlineKeysOutput, inlineForeignKeysOutput, declaresKeysInline,
        constrainsInline, plain, notSqlite]
    rw [bare _ (by decide), tableConstraintsOutput, List.append_assoc, inlineForeignKeysOutput,
      constrainsInline, Plan.ifNotExists_startingWith_createIfNotExists, Bool.or_true, if_pos rfl]
    rfl

/-- A repeatable creation may hold more than a plain one, but only keys and foreign keys. -/
theorem newTable_createIfNotExists (dialect : Dialect) :
    ∃ path elements extra options,
      newTable dialect (plan.startingWith .create) = .createTable false path elements options ∧
      newTable dialect (plan.startingWith .createIfNotExists) =
        .createTable true path (elements ++ extra) options ∧
      ∀ element ∈ extra, element.keys ≠ [] ∨ element.foreignKeys ≠ [] := by
  have guarded : newTable dialect (plan.startingWith .createIfNotExists) =
      .createTable true (tablePath plan)
        (plan.columns.map (fun column =>
          .column (columnDefinition dialect (plan.startingWith .create) column)) ++
          tableConstraintsOutput dialect (plan.startingWith .create) ++ movedElements dialect plan)
        (tableOptions dialect plan) := by
    rw [newTable, tableConstraintsOutput_createIfNotExists describing,
      Plan.ifNotExists_startingWith_createIfNotExists, ← List.append_assoc]
    simp only [columnDefinition_startingWith (rfl : Command.createIfNotExists.isCreate = true)]
    rfl
  refine ⟨tablePath plan, _, movedElements dialect plan, tableOptions dialect plan, ?_, guarded, ?_⟩
  · rw [newTable, Plan.ifNotExists_startingWith_create describing]
    rfl
  · intro element listed
    unfold movedElements at listed
    split at listed
    · cases listed
    rcases List.mem_append.mp listed with ofIndex | ofKey
    · unfold inlineKeysOutput at ofIndex
      split at ofIndex
      · obtain ⟨index, _, rfl⟩ := List.mem_map.mp ofIndex
        exact .inl (List.cons_ne_nil _ _)
      · cases ofIndex
    · obtain ⟨_, constraint, rfl⟩ := List.mem_map.mp ofKey
      obtain ⟨key, _, rfl⟩ := List.mem_map.mp constraint
      exact .inr (List.cons_ne_nil _ _)

/-- All comments of a creation stand behind the table and its columns, whichever way it is created. -/
theorem filter_isComment_output {creation : Command} (creates : creation.isCreate = true) :
    ((plan.startingWith creation).output dialect).filter Statement.isComment =
      columnComments dialect plan plan.columns ++ newTableComments dialect plan := by
  have definitions : (definitionsOutput dialect (plan.startingWith creation)).filter
      Statement.isComment = [] := by
    rw [List.filter_eq_nil_iff]
    intro statement listed
    rcases List.mem_append.mp listed with ofIndex | ofKey
    · obtain ⟨index, _, given⟩ := List.mem_filterMap.mp ofIndex
      obtain ⟨_, rfl, _⟩ := exists_createIndex (Plan.creating_startingWith creates) given
      exact Bool.false_ne_true
    · obtain ⟨key, _, given⟩ := List.mem_filterMap.mp ofKey
      unfold foreignKeyOutput at given
      split at given
      · cases given
      · cases given
        exact Bool.false_ne_true
  have ofColumns : (columnComments dialect plan plan.columns).filter Statement.isComment =
      columnComments dialect plan plan.columns :=
    List.filter_eq_self.mpr fun _ => isComment_columnComments
  have ofTable : (newTableComments dialect plan).filter Statement.isComment =
      newTableComments dialect plan :=
    List.filter_eq_self.mpr fun _ => isComment_newTableComments
  rw [output_startingWith describing creates, List.filter_append, List.filter_append,
    List.filter_cons_of_neg Bool.false_ne_true, definitions, ofColumns, ofTable, List.append_nil]

/-! ### Keys and foreign keys -/

/-- What no comment gives is given by the table and by what is defined behind it. -/
theorem flatMap_output_startingWith {β : Type} {f : Statement → List β}
    (noComment : ∀ statement, statement.isComment = true → f statement = [])
    {creation : Command} (creates : creation.isCreate = true) :
    ((plan.startingWith creation).output dialect).flatMap f =
      f (newTable dialect (plan.startingWith creation)) ++
        (definitionsOutput dialect (plan.startingWith creation)).flatMap f := by
  have ofColumns : (columnComments dialect plan plan.columns).flatMap f = [] :=
    List.flatMap_eq_nil_iff.mpr fun statement listed =>
      noComment statement (isComment_columnComments listed)
  have ofTable : (newTableComments dialect plan).flatMap f = [] :=
    List.flatMap_eq_nil_iff.mpr fun statement listed =>
      noComment statement (isComment_newTableComments listed)
  rw [output_startingWith describing creates, List.flatMap_append, List.flatMap_append,
    List.flatMap_cons, ofColumns, ofTable, List.append_nil, List.append_nil]

/-- In mysql the statement of an index creates what its key would be inside the table. -/
theorem createdIndexes_indexOutput (index : Index) :
    (indexOutput .mysql (plan.startingWith .create) index).toList.flatMap
      Statement.createdIndexes =
        (only (index.kind != .primary) (keyElement plan index)).flatMap TableElement.keys := by
  have plain := Plan.ifNotExists_startingWith_create describing
  have creating : (plan.startingWith .create).creating = true := Plan.creating_startingWith rfl
  rcases index with ⟨kind, columns, name, method⟩
  cases kind with
  | primary => simp [indexOutput, creating, only]
  | index | unique =>
    simp [indexOutput, indexCreation?, declaresKeysInline, plain, plainIndex, uniqueIndex,
      indexCreation, Statement.createdIndexes, IndexCreation.declaration, IndexTarget.method,
      keyElement, TableElement.keys, only]
  | fullText =>
    simp [indexOutput, indexCreation?, declaresKeysInline, plain, fullTextIndex?, indexCreation,
      Statement.createdIndexes, IndexCreation.declaration, IndexTarget.method, keyElement,
      TableElement.keys, only]
    rfl

/-- In mysql the keys inside a repeatable table are the indexes behind a plain one. -/
theorem inlineKeys_eq_createdIndexes :
    (newTable .mysql (plan.startingWith .createIfNotExists)).inlineKeys =
      ((plan.startingWith .create).output .mysql).flatMap Statement.createdIndexes := by
  have creating : (plan.startingWith .createIfNotExists).creating = true :=
    Plan.creating_startingWith rfl
  have inside : inlineKeysOutput .mysql (plan.startingWith .createIfNotExists) =
      ((newIndexes .mysql plan).filter fun index => index.kind != .primary).map
        (keyElement plan) := by
    rw [inlineKeysOutput, inlineIndexes_eq_filter _ creating, separateIndexes_of_creating creating,
      declaresKeysInline, Plan.ifNotExists_startingWith_createIfNotExists]
    rfl
  have behind : (plainIndexes .mysql plan).flatMap Statement.createdIndexes =
      (((newIndexes .mysql plan).filter fun index => index.kind != .primary).map
        (keyElement plan)).flatMap TableElement.keys := by
    rw [plainIndexes, List.filterMap_eq_flatMap_toList, List.flatMap_assoc]
    induction newIndexes .mysql plan with
    | nil => rfl
    | cons index rest ih =>
      rw [List.flatMap_cons, createdIndexes_indexOutput describing index, ih]
      cases secondary : index.kind != .primary <;> simp [only, secondary]
  have keys : (plan.foreignKeys.map (foreignKeyAddition plan)).flatMap
      Statement.createdIndexes = [] := by
    simp [List.flatMap_map, foreignKeyAddition, Statement.createdIndexes]
  have noComment (statement : Statement) (comment : statement.isComment = true) :
      statement.createdIndexes = [] := by
    cases statement with
    | createIndex => cases comment
    | _ => rfl
  rw [inlineKeys_newTable, inside, flatMap_output_startingWith describing noComment rfl,
    definitionsOutput_create describing, if_neg (by decide), List.flatMap_append, behind, keys,
    List.append_nil]
  rfl

/-- Apart from sqlite, the foreign keys inside a repeatable table are those added to a plain one. -/
theorem inlineForeignKeys_eq_addedForeignKeys (notSqlite : dialect ≠ .sqlite) :
    ((plan.startingWith .createIfNotExists).output dialect).flatMap Statement.inlineForeignKeys =
      ((plan.startingWith .create).output dialect).flatMap Statement.addedForeignKeys := by
  have plain := Plan.ifNotExists_startingWith_create describing
  have noInline (statement : Statement) (comment : statement.isComment = true) :
      statement.inlineForeignKeys = [] := by
    cases statement with
    | createTable => cases comment
    | _ => rfl
  have noAddition (statement : Statement) (comment : statement.isComment = true) :
      statement.addedForeignKeys = [] := by
    cases statement with
    | alterTable => cases comment
    | _ => rfl
  have noIndex : ∀ statement ∈ plainIndexes dialect plan,
      statement.guardIndex.inlineForeignKeys = [] ∧ statement.addedForeignKeys = [] := by
    intro statement listed
    obtain ⟨index, _, given⟩ := List.mem_filterMap.mp listed
    obtain ⟨creation, rfl, _⟩ := exists_createIndex (Plan.creating_startingWith rfl) given
    exact ⟨rfl, rfl⟩
  have inside : inlineForeignKeysOutput dialect (plan.startingWith .createIfNotExists) =
      plan.foreignKeys.map (foreignKeyConstraint plan) := by
    rw [inlineForeignKeysOutput, constrainsInline,
      Plan.ifNotExists_startingWith_createIfNotExists, Bool.or_true, if_pos rfl]
    rfl
  have behindIndexes : (definitionsOutput dialect
      (plan.startingWith .createIfNotExists)).flatMap Statement.inlineForeignKeys = [] := by
    rw [definitionsOutput_createIfNotExists describing]
    split
    · rfl
    · rw [List.flatMap_map, List.flatMap_eq_nil_iff]
      exact fun statement listed => (noIndex statement listed).1
  have behind : (definitionsOutput dialect
      (plan.startingWith .create)).flatMap Statement.addedForeignKeys =
        plan.foreignKeys.map (foreignKeyConstraint plan) := by
    have ofIndexes : (plainIndexes dialect plan).flatMap Statement.addedForeignKeys = [] :=
      List.flatMap_eq_nil_iff.mpr fun statement listed => (noIndex statement listed).2
    rw [definitionsOutput_create describing, if_neg notSqlite, List.flatMap_append, ofIndexes,
      List.flatMap_map, List.map_eq_flatMap]
    rfl
  rw [flatMap_output_startingWith describing noInline rfl,
    flatMap_output_startingWith describing noAddition rfl, inlineForeignKeys_newTable, inside,
    behindIndexes, behind, List.append_nil]
  rfl

/-- In mysql a repeatable creation is one statement. -/
theorem output_createIfNotExists_mysql :
    (plan.startingWith .createIfNotExists).output .mysql =
      [newTable .mysql (plan.startingWith .createIfNotExists)] := by
  have comments : newTableComments .mysql plan = [] :=
    List.flatMap_eq_nil_iff.mpr fun _ _ => rfl
  rw [output_startingWith describing rfl, definitionsOutput_createIfNotExists describing, comments]
  rfl

end

end Compile

/-! ## Both creations -/

namespace Sql

/-- The statements of a repeatable creation do the work of those of a plain one.  Their table holds
all that the plain one holds, and besides only keys and foreign keys; which ones these are, and which
statements are left of the plain creation, depends on the dialect. -/
structure RepeatableVersion (dialect : Dialect) (plain repeatable : List Statement) : Prop where
  table : ∃ path elements extra options,
    plain.head? = some (.createTable false path elements options) ∧
    repeatable.head? = some (.createTable true path (elements ++ extra) options) ∧
    ∀ element ∈ extra, element.keys ≠ [] ∨ element.foreignKeys ≠ []
  comments : plain.filter Statement.isComment = repeatable.filter Statement.isComment
  guarded : ∀ statement ∈ repeatable,
    (∃ words ∈ repeatableWords, Begins words (statement.text dialect)) ∧
      ¬ Begins "ALTER TABLE" (statement.text dialect)
  indexes : dialect ≠ .mysql → List.Forall₂ AddsGuard
    ((plain.map (Statement.text dialect)).filter isIndexText)
    ((repeatable.map (Statement.text dialect)).filter isIndexText)
  keys : dialect = .mysql → ∃ creation, repeatable = [creation] ∧
    creation.inlineKeys = plain.flatMap Statement.createdIndexes
  foreignKeys : dialect ≠ .sqlite →
    repeatable.flatMap Statement.inlineForeignKeys = plain.flatMap Statement.addedForeignKeys

end Sql

namespace Plan

open Compile Sql

theorem repeatableVersion_output (dialect : Dialect) {plan : Plan}
    (describing : plan.Describes) :
    RepeatableVersion dialect ((plan.startingWith .create).output dialect)
      ((plan.startingWith .createIfNotExists).output dialect) where
  table := by
    rw [output_startingWith describing rfl, output_startingWith describing rfl]
    obtain ⟨path, elements, extra, options, plain, guarded, only⟩ :=
      newTable_createIfNotExists describing dialect
    exact ⟨path, elements, extra, options, congrArg some plain, congrArg some guarded, only⟩
  comments := by
    rw [filter_isComment_output describing rfl, filter_isComment_output describing rfl]
  guarded := by
    intro statement listed
    obtain ⟨words, begin, begins⟩ :=
      begins_of_isRepeatable dialect (isRepeatable_output describing statement listed)
    exact ⟨⟨words, begin, begins⟩, not_begins_alterTable begin begins⟩
  indexes := forall₂_addsGuard describing
  keys := by
    rintro rfl
    exact ⟨_, output_createIfNotExists_mysql describing, inlineKeys_eq_createdIndexes describing⟩
  foreignKeys := inlineForeignKeys_eq_addedForeignKeys describing

theorem build_creation (table : String) {creation : Step} {first : Command}
    (creates : ∀ plan : Plan, plan.apply creation = plan.request first) (other : first ≠ .comment)
    {steps : List Step} (describing : ∀ step ∈ steps, step.describes = true) :
    build table (creation :: steps) = (build table steps).startingWith first := by
  have begun : ({ table } : Plan).apply creation = ({ table } : Plan).startingWith first := by
    rw [creates]
    rfl
  rw [build, List.foldl_cons, begun, foldl_apply_startingWith _ other describing]
  rfl

end Plan

end TablePlan

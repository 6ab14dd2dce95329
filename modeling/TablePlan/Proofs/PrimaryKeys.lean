import TablePlan.Proofs.Agreement
import TablePlan.Proofs.ColumnFlags
import TablePlan.Proofs.Declarations

/-!
# Primary keys

A primary key is declared over a list of columns or by flags of columns, and reaches the database as
a constraint of a new table, as an addition to an existing one, or in sqlite inside the definition of
a column.  Main statement: the key of a new table is the same in every dialect that compiles it, and
an existing table gains the declared keys, or the flagged one if none is declared, except in sqlite,
which adds none (`primaryKeys_toSql`).
-/

namespace TablePlan

namespace Sql

/-! ## What statements declare -/

/-- The primary key that a clause makes of its column. -/
def ColumnClause.primaryKeys (column : String) : ColumnClause → List (List String)
  | .primaryAutoincrement => [[column]]
  | _ => []

/-- The primary keys that the definition of a column declares. -/
def ColumnDefinition.primaryKeys (definition : ColumnDefinition) : List (List String) :=
  definition.clauses.flatMap (ColumnClause.primaryKeys definition.name)

/-- The columns of a constraint that is a primary key. -/
def Constraint.primaryKeys : Constraint → List (List String)
  | .primaryKey _ columns => [columns]
  | .foreignKey .. => []

/-- The primary keys that an element of a new table declares. -/
def TableElement.primaryKeys : TableElement → List (List String)
  | .column definition => definition.primaryKeys
  | .constraint stated => stated.primaryKeys
  | .key .. => []

/-- The primary keys inside the column definitions of an action. -/
def Alteration.inlinePrimaryKeys : Alteration → List (List String)
  | .addColumn definition | .modifyColumn definition => definition.primaryKeys
  | _ => []

/-- The primary keys that an action adds as constraints. -/
def Alteration.addedPrimaryKeys : Alteration → List (List String)
  | .addConstraint stated => stated.primaryKeys
  | _ => []

namespace Statement

/-- The primary keys that a statement declares together with the table or the columns that it
creates, each as the list of its columns. -/
def inlinePrimaryKeys : Statement → List (List String)
  | .createTable _ _ elements _ => elements.flatMap TableElement.primaryKeys
  | .alterTable _ alterations => alterations.flatMap Alteration.inlinePrimaryKeys
  | _ => []

/-- The primary keys that a statement adds to an existing table, each as the list of its columns. -/
def addedPrimaryKeys : Statement → List (List String)
  | .alterTable _ alterations => alterations.flatMap Alteration.addedPrimaryKeys
  | _ => []

/-- A statement that neither creates a table nor declares a primary key. -/
structure Keyless (statement : Statement) : Prop where
  createsNone : statement.createsTable = false
  inline : statement.inlinePrimaryKeys = []
  added : statement.addedPrimaryKeys = []

/-- Statements that only drop or rename have no key. -/
theorem keyless_of_declaresNothing {statement : Statement} (nothing : statement.DeclaresNothing) :
    statement.Keyless := by
  cases statement with
  | createTable | createIndex | commentOnTable | commentOnColumn => exact nothing.elim
  | alterTable table alterations =>
    have each (alteration : Alteration) (listed : alteration ∈ alterations) :
        alteration.inlinePrimaryKeys = [] ∧ alteration.addedPrimaryKeys = [] := by
      have nothing : alteration.DeclaresNothing := nothing alteration listed
      cases alteration with
      | addColumn | modifyColumn | addConstraint | setComment => exact nothing.elim
      | _ => exact ⟨rfl, rfl⟩
    refine ⟨rfl, ?_, ?_⟩
    · exact List.flatMap_eq_nil_iff.mpr fun alteration listed => (each alteration listed).1
    · exact List.flatMap_eq_nil_iff.mpr fun alteration listed => (each alteration listed).2
  | _ => exact ⟨rfl, rfl, rfl⟩

end Statement

theorem ColumnClause.primaryKeys_eq_nil {column : String} {clause : ColumnClause}
    (other : clause ≠ .primaryAutoincrement) : clause.primaryKeys column = [] := by
  cases clause with
  | primaryAutoincrement => exact absurd rfl other
  | _ => rfl

/-- Clauses of which none makes a primary key. -/
theorem flatMap_primaryKeys_eq_nil {column : String} {clauses : List ColumnClause}
    (none : .primaryAutoincrement ∉ clauses) :
    clauses.flatMap (ColumnClause.primaryKeys column) = [] := by
  rw [List.flatMap_eq_nil_iff]
  intro clause listed
  apply ColumnClause.primaryKeys_eq_nil
  rintro rfl
  exact none listed

end Sql

/-! ## What is due -/

/-- The primary key made of the flagged ones among some columns. -/
def flaggedPrimaryKeys (columns : List Column) : List (List String) :=
  match columns.filter Column.primary with
  | [] => []
  | flagged => [flagged.map Column.name]

namespace Plan

/-- The primary keys declared over lists of columns. -/
def declaredPrimaryKeys (plan : Plan) : List Index :=
  plan.indexes.filter fun index => index.kind = .primary

/-- The primary key that a new table is due: the first declared one, or the flagged one. -/
def createdPrimaryKeys (plan : Plan) : List (List String) :=
  match plan.declaredPrimaryKeys with
  | [] => flaggedPrimaryKeys plan.columns
  | first :: _ => [first.columns]

/-- The primary keys that an existing table is due: all declared ones, or that of the flagged new
columns. -/
def addedPrimaryKeys (plan : Plan) : List (List String) :=
  match plan.declaredPrimaryKeys with
  | [] => flaggedPrimaryKeys plan.addedColumns
  | declared => declared.map Index.columns

end Plan

namespace Compile

open Sql

section
variable (dialect : Dialect) (plan : Plan)

/-! ## Columns -/

theorem primaryAutoincrement_notMem_enumerationCheck (column : Column) :
    .primaryAutoincrement ∉ (enumerationCheck? column).toList := by
  unfold enumerationCheck?
  split <;> simp

/-- In sqlite a column that counts up by itself is a primary key; no other definition of a column
declares one. -/
theorem primaryKeys_columnDefinition (column : Column) :
    (columnDefinition dialect plan column).primaryKeys =
      only (dialect = .sqlite && column.autoIncrement) [column.name] := by
  have check := primaryAutoincrement_notMem_enumerationCheck column
  cases dialect with
  | postgres =>
    have value : .primaryAutoincrement ∉
        if column.autoIncrement then [] else defaultClause .postgres column := by
      split <;> simp [defaultClause]
    have none : .primaryAutoincrement ∉ postgresClauses column := by
      simp [postgresClauses, mem_only, check, value]
    exact flatMap_primaryKeys_eq_nil none
  | mysql =>
    have nullability : ¬ ColumnClause.primaryAutoincrement =
        if column.nullable then .null else .notNull := by
      split <;> simp
    have none : .primaryAutoincrement ∉ mysqlClauses column := by
      simp [mysqlClauses, mem_only, defaultClause, nullability]
    exact flatMap_primaryKeys_eq_nil none
  | sqlite =>
    obtain ⟨others, clauses, none⟩ : ∃ others,
        sqliteClauses plan column = only column.autoIncrement .primaryAutoincrement ++ others ∧
          .primaryAutoincrement ∉ others := by
      simp only [sqliteClauses, List.append_assoc]
      refine ⟨_, rfl, ?_⟩
      cases plan.creating <;> simp [mem_only, defaultClause, check]
    show (sqliteClauses plan column).flatMap (ColumnClause.primaryKeys column.name) = _
    rw [clauses, List.flatMap_append, flatMap_primaryKeys_eq_nil none]
    cases column.autoIncrement <;> rfl

theorem keyless_columnComments (columns : List Column) :
    ∀ statement ∈ columnComments dialect plan columns, statement.Keyless := by
  intro statement listed
  obtain ⟨column, text, rfl⟩ := exists_of_mem_columnComments listed
  exact ⟨rfl, rfl, rfl⟩

/-! ## Creation -/

/-- The key that the compilation puts into a new table is the one that is due. -/
theorem primaryKey?_columns :
    (primaryKey? plan).toList.map PrimaryKey.columns = plan.createdPrimaryKeys := by
  have found : plan.declaredPrimaryKeys.head? = plan.indexes.find? fun index =>
      index.kind = .primary := List.head?_filter
  unfold primaryKey? Plan.createdPrimaryKeys
  rw [← found]
  cases plan.declaredPrimaryKeys with
  | cons first others => rfl
  | nil =>
    simp only [List.head?_nil, flaggedPrimaryKey?, flaggedPrimaryKeys]
    cases plan.columns.filter Column.primary <;> rfl

/-- A new table declares the columns that count up by themselves, in sqlite, and the key as a
constraint where there are none. -/
theorem inlinePrimaryKeys_createTable (ifNotExists : Bool) (options : List TableOption) :
    (Statement.createTable ifNotExists (tablePath plan)
      (plan.columns.map (fun column => .column (columnDefinition dialect plan column)) ++
        tableConstraintsOutput dialect plan) options).inlinePrimaryKeys =
    plan.columns.flatMap
      (fun column => only (dialect = .sqlite && column.autoIncrement) [column.name]) ++
      if dialect = .sqlite && plan.columns.any Column.autoIncrement then []
      else plan.createdPrimaryKeys := by
  have columns : (plan.columns.map fun column =>
        TableElement.column (columnDefinition dialect plan column)).flatMap
          TableElement.primaryKeys =
      plan.columns.flatMap
        fun column => only (dialect = .sqlite && column.autoIncrement) [column.name] := by
    rw [List.flatMap_map]
    apply List.flatMap_congr
    intro column _
    exact primaryKeys_columnDefinition dialect plan column
  have primary : (primaryKeyElementsOutput dialect plan).flatMap TableElement.primaryKeys =
      if dialect = .sqlite && plan.columns.any Column.autoIncrement then []
      else plan.createdPrimaryKeys := by
    unfold primaryKeyElementsOutput
    split
    · rfl
    · rw [← primaryKey?_columns]
      cases primaryKey? plan <;> rfl
  have keys : (inlineKeysOutput dialect plan).flatMap TableElement.primaryKeys = [] := by
    unfold inlineKeysOutput
    split
    · rw [List.flatMap_map, List.flatMap_eq_nil_iff]
      intro index _
      rfl
    · rfl
  have foreign : ((inlineForeignKeysOutput dialect plan).map .constraint).flatMap
      TableElement.primaryKeys = [] := by
    unfold inlineForeignKeysOutput
    split
    · rw [List.flatMap_map, List.flatMap_map, List.flatMap_eq_nil_iff]
      intro key _
      rfl
    · rfl
  rw [Statement.inlinePrimaryKeys, List.flatMap_append, tableConstraintsOutput,
    List.flatMap_append, List.flatMap_append, columns, primary, keys, foreign, List.append_nil,
    List.append_nil]


theorem declaresPrimary_eq : plan.declaresPrimary = !plan.declaredPrimaryKeys.isEmpty := by
  rw [Bool.eq_iff_iff]
  simp [Plan.declaresPrimary, Plan.declaredPrimaryKeys, List.filter_eq_nil_iff]

/-- A new table is due one key or none. -/
theorem length_createdPrimaryKeys : plan.createdPrimaryKeys.length =
    if plan.declaresPrimary || plan.columns.any Column.primary then 1 else 0 := by
  have flagged : plan.columns.any Column.primary =
      !(plan.columns.filter Column.primary).isEmpty := by
    rw [Bool.eq_iff_iff]
    simp [List.filter_eq_nil_iff]
  unfold Plan.createdPrimaryKeys flaggedPrimaryKeys
  rw [declaresPrimary_eq, flagged]
  cases plan.declaredPrimaryKeys with
  | cons first others => rfl
  | nil => cases plan.columns.filter Column.primary <;> rfl

variable {dialect plan}

/-- Where a column that counts up by itself is flagged as primary, every dialect that creates the
table gives it the key that is due. -/
theorem primaryKeys_of_autoincrementVerdict
    (flagged : ∀ column ∈ plan.columns, column.autoIncrement = true → column.primary = true)
    (passed : autoincrementVerdict dialect plan = .ok ()) :
    plan.columns.flatMap
      (fun column => only (dialect = .sqlite && column.autoIncrement) [column.name]) ++
      (if dialect = .sqlite && plan.columns.any Column.autoIncrement then []
        else plan.createdPrimaryKeys) = plan.createdPrimaryKeys := by
  cases dialect with
  | postgres | mysql => simp [only]
  | sqlite =>
    have inline : plan.columns.flatMap (fun column => only column.autoIncrement [column.name]) =
        (plan.columns.filter Column.autoIncrement).map fun column => [column.name] := by
      induction plan.columns with
      | nil => rfl
      | cons column rest ih =>
        rw [List.flatMap_cons, ih, List.filter_cons]
        cases column.autoIncrement <;> rfl
    have counted : plan.columns.any Column.autoIncrement =
        !(plan.columns.filter Column.autoIncrement).isEmpty := by
      rw [Bool.eq_iff_iff]
      simp [List.filter_eq_nil_iff]
    have member (column : Column) (listed : column ∈ plan.columns.filter Column.autoIncrement) :
        plan.columns.any Column.primary = true := by
      obtain ⟨listed, counts⟩ := List.mem_filter.mp listed
      exact List.any_eq_true.mpr ⟨column, listed, flagged column listed counts⟩
    simp only [decide_true, Bool.true_and, inline, counted]
    unfold autoincrementVerdict at passed
    cases autoincrementing : plan.columns.filter Column.autoIncrement with
    | nil => rfl
    | cons column others =>
      rw [autoincrementing] at passed member
      cases others with
      | cons => cases passed
      | nil =>
        have due := length_createdPrimaryKeys plan
        rw [member column List.mem_cons_self, Bool.or_true, if_pos rfl, ← primaryKey?_columns] at due
        rw [refuseIf_eq_ok_iff] at passed
        rw [← primaryKey?_columns]
        cases found : primaryKey? plan with
        | none =>
          rw [found] at due
          cases due
        | some key =>
          have same : key.columns = [column.name] := by simpa [found] using passed
          simp [same]

/-! ## Indexes, foreign keys and comments -/

theorem keyless_indexCreation? {index : Index} {statement : Statement}
    (created : indexCreation? dialect plan index = some statement) : statement.Keyless := by
  unfold indexCreation? at created
  split at created
  · cases created
    exact ⟨rfl, rfl, rfl⟩
  · cases dialect <;> cases created <;> exact ⟨rfl, rfl, rfl⟩
  · cases created
    exact ⟨rfl, rfl, rfl⟩

/-- The statement of an index has no key, unless it adds a primary key to an existing table. -/
theorem indexOutput_cases {index : Index} {statement : Statement}
    (given : indexOutput dialect plan index = some statement) :
    statement.Keyless ∧ index.kind ≠ .primary ∨
      plan.creating = false ∧ index.kind = .primary ∧
        statement = primaryKeyAddition dialect plan index := by
  unfold indexOutput at given
  split at given
  · next primary =>
    split at given
    · cases given
    · next existing =>
      cases given
      have existing : plan.creating = false := by
        cases creating : plan.creating with
        | false => rfl
        | true => simp [creating] at existing
      exact .inr ⟨existing, primary, rfl⟩
  · next secondary =>
    split at given
    · cases given
    · exact .inl ⟨keyless_indexCreation? given, secondary⟩

theorem keyless_foreignKeyOutput {key : ForeignKey} {statement : Statement}
    (given : foreignKeyOutput dialect plan key = some statement) : statement.Keyless := by
  unfold foreignKeyOutput at given
  split at given
  · cases given
  · cases given
    exact ⟨rfl, rfl, rfl⟩

/-- Behind a creation no statement declares a primary key. -/
theorem keyless_definitionsOutput (creating : plan.creating = true) :
    ∀ statement ∈ definitionsOutput dialect plan, statement.Keyless := by
  intro statement listed
  rcases List.mem_append.mp listed with index | key
  · obtain ⟨index, _, given⟩ := List.mem_filterMap.mp index
    rcases indexOutput_cases given with ⟨keyless, _⟩ | ⟨existing, _⟩
    · exact keyless
    · rw [creating] at existing
      cases existing
  · obtain ⟨key, _, given⟩ := List.mem_filterMap.mp key
    exact keyless_foreignKeyOutput given

/-- No index, foreign key or addition of one stands inside the definition of a column. -/
theorem inlinePrimaryKeys_definitionsOutput :
    ∀ statement ∈ definitionsOutput dialect plan, statement.inlinePrimaryKeys = [] := by
  intro statement listed
  rcases List.mem_append.mp listed with index | key
  · obtain ⟨index, _, given⟩ := List.mem_filterMap.mp index
    rcases indexOutput_cases given with ⟨keyless, _⟩ | ⟨_, _, rfl⟩
    · exact keyless.inline
    · rfl
  · obtain ⟨key, _, given⟩ := List.mem_filterMap.mp key
    exact (keyless_foreignKeyOutput given).inline

theorem keyless_tableCommentOutput :
    ∀ statement ∈ tableCommentOutput dialect plan, statement.Keyless := by
  intro statement listed
  unfold tableCommentOutput at listed
  cases dialect with
  | sqlite => cases listed
  | postgres =>
    obtain ⟨text, _, rfl⟩ := List.mem_map.mp listed
    exact ⟨rfl, rfl, rfl⟩
  | mysql =>
    simp only at listed
    split at listed
    · cases listed
    · obtain ⟨text, _, rfl⟩ := List.mem_map.mp listed
      exact ⟨rfl, rfl, rfl⟩

/-! ## Work on an existing table -/

/-- Behind an addition each declared primary key is added, except in sqlite. -/
theorem addedPrimaryKeys_definitionsOutput (existing : plan.creating = false) :
    (definitionsOutput dialect plan).flatMap Statement.addedPrimaryKeys =
      if dialect = .sqlite then [] else plan.declaredPrimaryKeys.map Index.columns := by
  have each (index : Index) :
      (indexOutput dialect plan index).toList.flatMap Statement.addedPrimaryKeys =
        only (index.kind = .primary && dialect ≠ .sqlite) index.columns := by
    cases given : indexOutput dialect plan index with
    | none =>
      by_cases primary : index.kind = .primary
      · have sqlite : dialect = .sqlite := by
          by_contra other
          simp [indexOutput, primary, existing, other] at given
        simp [only, sqlite]
      · simp [only, primary]
    | some statement =>
      rw [Option.toList_some, List.flatMap_singleton]
      rcases indexOutput_cases given with ⟨keyless, secondary⟩ | ⟨_, primary, rfl⟩
      · simp [keyless.added, secondary, only]
      · have other : dialect ≠ .sqlite := by
          rintro rfl
          simp [indexOutput, primary] at given
        simp only [primary, other, ne_eq, not_false_eq_true, decide_true, Bool.and_self]
        rfl
  have indexes (list : List Index) :
      (list.filterMap (indexOutput dialect plan)).flatMap Statement.addedPrimaryKeys =
        if dialect = .sqlite then []
        else (list.filter fun index => index.kind = .primary).map Index.columns := by
    rw [List.filterMap_eq_flatMap_toList, List.flatMap_assoc]
    simp only [each]
    induction list with
    | nil => simp
    | cons index rest ih =>
      rw [List.flatMap_cons, ih, List.filter_cons]
      by_cases primary : index.kind = .primary <;> by_cases sqlite : dialect = .sqlite <;>
        simp [only, primary, sqlite]
  have foreign : (plan.foreignKeys.filterMap (foreignKeyOutput dialect plan)).flatMap
      Statement.addedPrimaryKeys = [] := by
    rw [List.flatMap_eq_nil_iff]
    intro statement listed
    obtain ⟨key, _, given⟩ := List.mem_filterMap.mp listed
    exact (keyless_foreignKeyOutput given).added
  have flags : ((flaggedColumns plan).flatMap (flaggedIndexes dialect)).filter
      (fun index => index.kind = .primary) = [] := by
    rw [List.filter_eq_nil_iff]
    intro index listed
    obtain ⟨column, _, flagged⟩ := List.mem_flatMap.mp listed
    have kinds : index = flaggedIndex dialect column .unique ∨
        index = flaggedIndex dialect column .index := by
      rcases List.mem_append.mp flagged with unique | plain
      · exact .inl (mem_only.mp unique).2
      · exact .inr (mem_only.mp plain).2
    rcases kinds with rfl | rfl <;> simp [flaggedIndex]
  unfold definitionsOutput separateIndexes
  rw [List.flatMap_append, indexes, foreign, List.append_nil, List.filter_append, flags,
    List.nil_append]
  rfl

/-- A change declares no primary key besides those in the definitions of its columns. -/
theorem primaryKeys_changeColumnsOutput :
    ∀ statement ∈ changeColumnsOutput dialect plan, statement.addedPrimaryKeys = [] ∧
      ((∀ column ∈ plan.columns, (columnDefinition dialect plan column).primaryKeys = []) →
        statement.inlinePrimaryKeys = []) := by
  intro statement listed
  cases dialect with
  | sqlite => cases listed
  | postgres =>
    rcases List.mem_append.mp listed with change | comment
    · obtain ⟨column, _, rfl⟩ := List.mem_map.mp change
      unfold changeColumn
      cases column.nullable <;> cases column.autoIncrement <;> cases column.defaultValue <;>
        exact ⟨rfl, fun _ => rfl⟩
    · have keyless := keyless_columnComments _ _ _ statement comment
      exact ⟨keyless.added, fun _ => keyless.inline⟩
  | mysql =>
    rw [changeColumnsOutput_mysql] at listed
    split at listed
    · cases listed
    · rw [List.mem_singleton.mp listed]
      constructor
      · exact List.flatMap_eq_nil_iff.mpr fun alteration changes => by
          obtain ⟨column, _, rfl⟩ := List.mem_map.mp changes
          rfl
      · intro silent
        refine List.flatMap_eq_nil_iff.mpr fun alteration changes => ?_
        obtain ⟨column, changed, rfl⟩ := List.mem_map.mp changes
        exact silent column (List.mem_of_mem_filter changed)

/-- An addition declares no primary key inside the definitions of its columns if they declare
none. -/
theorem inlinePrimaryKeys_addColumnsOutput
    (silent : ∀ column ∈ plan.columns, (columnDefinition dialect plan column).primaryKeys = []) :
    ∀ statement ∈ addColumnsOutput dialect plan, statement.inlinePrimaryKeys = [] := by
  have additions : ∀ alteration ∈ columnAdditions dialect plan,
      alteration.inlinePrimaryKeys = [] := by
    intro alteration listed
    obtain ⟨column, new, rfl⟩ := List.mem_map.mp listed
    exact silent column (List.mem_of_mem_filter new)
  intro statement listed
  unfold addColumnsOutput at listed
  split at listed
  · obtain ⟨addition, member, rfl⟩ := List.mem_map.mp listed
    rw [Statement.inlinePrimaryKeys, List.flatMap_singleton]
    exact additions addition member
  · split at listed
    · cases listed
    · rcases List.mem_cons.mp listed with rfl | comment
      · refine List.flatMap_eq_nil_iff.mpr fun alteration member => ?_
        rcases List.mem_append.mp member with addition | primary
        · exact additions alteration addition
        · obtain ⟨key, _, rfl⟩ := List.mem_map.mp primary
          rfl
      · exact (keyless_columnComments _ _ _ statement comment).inline

/-- An addition adds the key of its flagged columns, unless one is declared; sqlite adds none. -/
theorem addedPrimaryKeys_addColumnsOutput :
    (addColumnsOutput dialect plan).flatMap Statement.addedPrimaryKeys =
      if dialect = .sqlite then [] else (addedPrimaryKey? plan).toList.map PrimaryKey.columns := by
  have additions : (columnAdditions dialect plan).flatMap Alteration.addedPrimaryKeys = [] := by
    rw [columnAdditions, List.flatMap_map, List.flatMap_eq_nil_iff]
    intro column _
    rfl
  unfold addColumnsOutput
  by_cases sqlite : dialect = .sqlite
  · rw [if_pos sqlite, if_pos sqlite, List.flatMap_map, List.flatMap_eq_nil_iff]
    intro addition member
    rw [Statement.addedPrimaryKeys, List.flatMap_singleton]
    exact List.flatMap_eq_nil_iff.mp additions addition member
  · rw [if_neg sqlite, if_neg sqlite]
    by_cases none : plan.addedColumns = []
    · simp [none, addedPrimaryKey?, flaggedPrimaryKey?]
    · have comments : (columnComments dialect plan plan.addedColumns).flatMap
          Statement.addedPrimaryKeys = [] := by
        rw [List.flatMap_eq_nil_iff]
        intro statement comment
        exact (keyless_columnComments _ _ _ statement comment).added
      rw [if_neg (by simpa using none), List.flatMap_cons, comments, List.append_nil,
        Statement.addedPrimaryKeys, List.flatMap_append, additions, List.nil_append]
      cases addedPrimaryKey? plan <;> rfl

/-- The declared keys and the flagged one together are the keys that an existing table is due. -/
theorem addedPrimaryKey?_columns :
    (addedPrimaryKey? plan).toList.map PrimaryKey.columns ++
      plan.declaredPrimaryKeys.map Index.columns = plan.addedPrimaryKeys := by
  unfold addedPrimaryKey? Plan.addedPrimaryKeys
  rw [declaresPrimary_eq]
  cases plan.declaredPrimaryKeys with
  | cons first others => rfl
  | nil =>
    simp only [flaggedPrimaryKey?, flaggedPrimaryKeys]
    cases plan.addedColumns.filter Column.primary <;> rfl

end

end Compile

/-! ## Flags -/

/-- A column that counts up by itself is part of the primary key, whatever is stated of it. -/
theorem Column.primary_declare (name : String) (type : ColumnType)
    (modifiers : List ColumnModifier) :
    (Column.declare name type modifiers).autoIncrement = true →
      (Column.declare name type modifiers).primary = true :=
  (Column.flagsAgree_declare name type modifiers).autoIncrement

namespace Plan

open Compile
open Sql (Statement)

variable {dialect : Dialect} {plan : Plan}

/-! ## All statements of a plan -/

/-- The statements of a plan that creates its table have no key, apart from the creations. -/
theorem mem_output_of_creating (order : plan.AsksInOrder) (creating : plan.creating = true)
    {statement : Statement} (member : statement ∈ plan.output dialect) :
    statement.Keyless ∨ ∃ ifNotExists, statement = .createTable ifNotExists (tablePath plan)
      (plan.columns.map (fun column => .column (columnDefinition dialect plan column)) ++
        tableConstraintsOutput dialect plan) (tableOptions dialect plan) := by
  obtain ⟨asked, listed, given⟩ := List.mem_flatMap.mp member
  have requested : asked ∈ plan.requested := by simpa [commands, creating] using listed
  cases asked with
  | create | createIfNotExists =>
    rcases List.mem_append.mp given with table | definition
    · rcases List.mem_cons.mp table with rfl | comment
      · exact .inr ⟨_, rfl⟩
      · exact .inl (keyless_columnComments _ _ _ statement comment)
    · exact .inl (keyless_definitionsOutput creating statement definition)
  | add => exact absurd requested order.noAddition
  | change => exact absurd requested order.noChange
  | comment => exact .inl (keyless_tableCommentOutput statement given)
  | _ => exact .inl (Statement.keyless_of_declaresNothing (declaresNothing_commandOutput rfl _ given))

/-- A creation that passes comes with a table creation and its verdict. -/
theorem creation_of_verdict (creating : plan.creating = true) (passed : plan.verdict dialect = .ok ()) :
    autoincrementVerdict dialect plan = .ok () ∧
      ∃ statement ∈ plan.output dialect, statement.createsTable = true := by
  obtain ⟨asked, listed, kind⟩ := exists_creation_mem_commands creating
  have verdict := forM_eq_ok_iff.mp passed asked listed
  cases asked with
  | create | createIfNotExists =>
    have table := (createTableVerdict_eq_ok_iff dialect).mp (bind_eq_ok_iff.mp verdict).1
    refine ⟨table.2.2.2.1, _, List.mem_flatMap.mpr ⟨_, listed, List.mem_cons_self⟩, rfl⟩
  | _ => cases kind

/-- Where no definition of a column declares a key, an existing table gains the keys that are due,
each by an addition of its own. -/
theorem primaryKeys_output_of_existing (order : plan.AsksInOrder) (existing : plan.creating = false)
    (silent : ∀ column ∈ plan.columns, (columnDefinition dialect plan column).primaryKeys = []) :
    (∀ statement ∈ plan.output dialect, statement.inlinePrimaryKeys = []) ∧
      (plan.output dialect).flatMap Statement.addedPrimaryKeys =
        if dialect = .sqlite then [] else plan.addedPrimaryKeys := by
  have comment : ∀ statement ∈ tableCommentOutput dialect plan, statement.Keyless :=
    keyless_tableCommentOutput
  constructor
  · have total : (plan.output dialect).flatMap Statement.inlinePrimaryKeys = [] := by
      rw [flatMap_output_of_existing
        (fun statement nothing => (Statement.keyless_of_declaresNothing nothing).inline)
        (List.flatMap_eq_nil_iff.mpr fun statement listed => (comment statement listed).inline)
        order existing, List.flatMap_eq_nil_iff, declaringOutput, if_neg (by simp [existing])]
      intro statement listed
      rcases List.mem_append.mp listed with alteration | definition
      · rcases List.mem_append.mp alteration with change | addition
        · exact (primaryKeys_changeColumnsOutput statement change).2 silent
        · exact inlinePrimaryKeys_addColumnsOutput silent statement addition
      · exact inlinePrimaryKeys_definitionsOutput statement definition
    exact List.flatMap_eq_nil_iff.mp total
  · have change : (changeColumnsOutput dialect plan).flatMap Statement.addedPrimaryKeys = [] :=
      List.flatMap_eq_nil_iff.mpr fun statement listed =>
        (primaryKeys_changeColumnsOutput statement listed).1
    rw [flatMap_output_of_existing
      (fun statement nothing => (Statement.keyless_of_declaresNothing nothing).added)
      (List.flatMap_eq_nil_iff.mpr fun statement listed => (comment statement listed).added)
      order existing, declaringOutput, if_neg (by simp [existing]), List.flatMap_append,
      List.flatMap_append, change, addedPrimaryKeys_addColumnsOutput,
      addedPrimaryKeys_definitionsOutput existing, List.nil_append]
    split
    · rfl
    · exact addedPrimaryKey?_columns

/-- What sqlite compiles for an existing table declares no primary key over a list of columns. -/
theorem declaresPrimary_of_sqlite (existing : plan.creating = false)
    (passed : plan.verdict .sqlite = .ok ()) : plan.declaresPrimary = false := by
  rw [declaresPrimary, List.any_eq_false]
  intro index member primary
  have additions : plan.hasAdditions = true := by simp [hasAdditions, List.ne_nil_of_mem member]
  have verdict := forM_eq_ok_iff.mp passed .add (add_mem_commands existing additions)
  have definitions := (bind_eq_ok_iff.mp (bind_eq_ok_iff.mp verdict).2).1
  have separate : index ∈ separateIndexes .sqlite plan := List.mem_append_right _ member
  have checked := forM_eq_ok_iff.mp definitions index separate
  have refused := (bind_eq_ok_iff.mp (bind_eq_ok_iff.mp checked).2).2
  simp [of_decide_eq_true primary, existing] at refused

/-- What sqlite compiles for an existing table holds no column that counts up by itself: it changes
none, and adds none that is part of a primary key. -/
theorem autoIncrement_of_sqlite (existing : plan.creating = false)
    (flagged : ∀ column ∈ plan.columns, column.autoIncrement = true → column.primary = true)
    (passed : plan.verdict .sqlite = .ok ()) :
    ∀ column ∈ plan.columns, column.autoIncrement = false := by
  have each := forM_eq_ok_iff.mp passed
  intro column listed
  cases change : column.change with
  | true =>
    have changes : plan.changedColumns ≠ [] :=
      List.ne_nil_of_mem (List.mem_filter.mpr ⟨listed, change⟩)
    have verdict := each .change (change_mem_commands existing changes)
    have refused : plan.changedColumns = [] := by simpa using (bind_eq_ok_iff.mp verdict).2
    exact absurd refused changes
  | false =>
    have new : column ∈ plan.addedColumns := List.mem_filter.mpr ⟨listed, by simp [change]⟩
    have additions : plan.hasAdditions = true := by simp [hasAdditions, List.ne_nil_of_mem new]
    have verdict := each .add (add_mem_commands existing additions)
    have addition := (bind_eq_ok_iff.mp verdict).1
    have noKey : addedPrimaryKey? plan = none := by
      simpa using (bind_eq_ok_iff.mp (bind_eq_ok_iff.mp addition).2).2
    have noFlag : plan.addedColumns.filter Column.primary = [] := by
      rw [addedPrimaryKey?, declaresPrimary_of_sqlite existing passed,
        if_neg Bool.false_ne_true, flaggedPrimaryKey?] at noKey
      split at noKey
      · assumption
      · cases noKey
    have notPrimary := List.filter_eq_nil_iff.mp noFlag column new
    cases counts : column.autoIncrement with
    | false => rfl
    | true => exact absurd (flagged column listed counts) notPrimary

end Plan

end TablePlan

import TablePlan.Proofs.Containment
import TablePlan.Proofs.InlineForeignKeys
import TablePlan.Proofs.Reading
import TablePlan.Proofs.Renaming

/-!
# Names that are blank

Each command checks the names that it writes for itself, and some names are written though no check
looks at them.  Main statement: of a plan that is built and compiles, the statements name all that
they are about exactly when none of these names is blank (`names_toSql`).
-/

namespace TablePlan

open Text (isBlank)

/-! ## Texts that are not blank -/

/-- None of some names is blank. -/
def NoneBlank (names : List String) : Prop :=
  ∀ name ∈ names, isBlank name = false

@[simp] theorem noneBlank_nil : NoneBlank [] := nofun

@[simp] theorem noneBlank_cons {name : String} {names : List String} :
    NoneBlank (name :: names) ↔ isBlank name = false ∧ NoneBlank names :=
  List.forall_mem_cons

@[simp] theorem noneBlank_append {first second : List String} :
    NoneBlank (first ++ second) ↔ NoneBlank first ∧ NoneBlank second :=
  List.forall_mem_append

@[simp] theorem noneBlank_flatMap {α : Type} {list : List α} {part : α → List String} :
    NoneBlank (list.flatMap part) ↔ ∀ a ∈ list, NoneBlank (part a) := by
  simp only [NoneBlank, List.mem_flatMap]
  grind

@[simp] theorem noneBlank_map {α : Type} {list : List α} {name : α → String} :
    NoneBlank (list.map name) ↔ ∀ a ∈ list, isBlank (name a) = false :=
  List.forall_mem_map

@[simp] theorem Text.isBlank_append (first second : String) :
    isBlank (first ++ second) = (isBlank first && isBlank second) := by
  simp [isBlank]

/-- A conventional name begins with the mark of what it names. -/
theorem Name.isBlank_index (table : String) (kind : IndexKind) (columns : List String) :
    isBlank (Name.index table kind columns) = false := by
  cases kind <;> simp +decide [Name.index, Name.primaryKey]

theorem Name.isBlank_primaryKey (table : String) : isBlank (Name.primaryKey table) = false := by
  simp +decide [Name.primaryKey]

theorem Name.isBlank_foreignKey (table referenced : String) :
    isBlank (Name.foreignKey table referenced) = false := by
  simp +decide [Name.foreignKey]

/-- The segments of a name that is accepted are not blank. -/
theorem noneBlank_segments {dialect : Dialect} {table : String}
    (accepted : checkTableName dialect table = .ok ()) : NoneBlank (Name.segments table) := by
  obtain ⟨named, single | ⟨_, schema, last, pair, blanks⟩⟩ := checkTableName_eq_ok_iff.mp accepted
  · simp [single, named]
  · simp [pair, blanks]

theorem noneBlank_schema? {dialect : Dialect} {table : String}
    (accepted : checkTableName dialect table = .ok ()) :
    NoneBlank (Name.schema? table).toList := by
  obtain ⟨_, single | ⟨_, schema, last, pair, blanks⟩⟩ := checkTableName_eq_ok_iff.mp accepted
  · simp [Name.schema?_of_singleton single]
  · simp [Name.schema?_of_pair pair, blanks]

/-! ## Names without a check -/

open Compile Sql

/-- The name of a foreign key, if it is given one, and the segments of the table that it refers to. -/
def ForeignKey.uncheckedNames (key : ForeignKey) : List String :=
  key.name.toList ++ Name.segments key.referencedTable

/-- The first name that is given for a primary key by flags. -/
def flaggedKeyName? (columns : List Column) : Option String :=
  (columns.filter Column.primary).findSome? Column.primaryName

namespace Plan

/-- In postgres a collation is a name; in sqlite the definition of a new column of an existing table
refers to the table of its first foreign key. -/
def uncheckedColumnNames (dialect : Dialect) (plan : Plan) (column : Column) : List String :=
  match dialect with
  | .postgres => column.collation.toList
  | .mysql => []
  | .sqlite =>
    if plan.creating then []
    else (plan.firstForeignKey? column).toList.flatMap fun key => Name.segments key.referencedTable

/-- The unchecked names of what a creation or an addition defines. -/
def uncheckedDefinitionNames (dialect : Dialect) (plan : Plan) : List String :=
  (flaggedColumns plan).flatMap (plan.uncheckedColumnNames dialect) ++
    (if dialect = .postgres && !plan.declaresPrimary then
      (flaggedKeyName? (flaggedColumns plan)).toList else []) ++
    (if dialect = .sqlite && !plan.creating then []
      else plan.foreignKeys.flatMap ForeignKey.uncheckedNames)

/-- The names that the statements of a command hold though no check looks at them. -/
def uncheckedNames (dialect : Dialect) (plan : Plan) : Command → List String
  | .create | .createIfNotExists | .add => plan.uncheckedDefinitionNames dialect
  | .change => plan.changedColumns.flatMap (plan.uncheckedColumnNames dialect)
  | .rename =>
    let new := plan.newName.getD ""
    if Name.isQualified new then
      if dialect = .mysql then Name.segments new else [Name.unqualified new]
    else []
  | .dropPrimary => if dialect = .postgres then plan.dropPrimary.toList else []
  | .renameIndex => plan.renameIndexes.flatMap fun (old, new) => [old, new]
  | .dropForeign => plan.dropForeigns
  | _ => []

end Plan

namespace Compile

/-- What all statements hold. -/
abbrev identifiers (statements : List Statement) : List String :=
  statements.flatMap Statement.identifiers

/-! ## Columns -/

section
variable {dialect : Dialect} {plan : Plan}

@[simp] theorem identifier?_defaultPiece (type : ColumnType) (value : DefaultValue) :
    (defaultPiece dialect type value).identifier? = none := by
  cases value with
  | string text =>
    simp only [defaultPiece]
    split <;> rfl
  | _ => rfl

theorem identifiers_defaultClause (column : Column) :
    (defaultClause dialect column).flatMap ColumnClause.identifiers = [] := by
  simp [defaultClause, List.flatMap_map, ColumnClause.identifiers]

theorem identifiers_only {wanted : Bool} (clause : ColumnClause)
    (none : clause.identifiers = []) : (only wanted clause).flatMap ColumnClause.identifiers = [] := by
  rw [Plan.flatMap_only, none, ite_self]

theorem noneBlank_enumerationCheck? {column : Column} (named : isBlank column.name = false) :
    NoneBlank ((enumerationCheck? column).toList.flatMap ColumnClause.identifiers) := by
  unfold enumerationCheck?
  split <;> simp [ColumnClause.identifiers, named]

theorem noneBlank_postgresClauses {column : Column} (named : isBlank column.name = false) :
    NoneBlank ((postgresClauses column).flatMap ColumnClause.identifiers) ↔
      NoneBlank column.collation.toList := by
  have check := noneBlank_enumerationCheck? named
  have default : (if column.autoIncrement then [] else defaultClause .postgres column).flatMap
      ColumnClause.identifiers = [] := by
    split
    · rfl
    · exact identifiers_defaultClause column
  have collation : (column.collation.toList.map fun name => ColumnClause.collate (.name name)).flatMap
      ColumnClause.identifiers = column.collation.toList := by
    cases column.collation <;> rfl
  rw [postgresClauses, List.flatMap_append, List.flatMap_append, List.flatMap_append, default,
    collation, identifiers_only .notNull rfl, List.append_nil, List.append_nil, noneBlank_append]
  exact and_iff_left check

theorem identifiers_mysqlClauses (column : Column) :
    (mysqlClauses column).flatMap ColumnClause.identifiers = [] := by
  have null : (if column.nullable then ColumnClause.null else .notNull).identifiers = [] := by
    split <;> rfl
  have others : (column.collation.toList.map fun name =>
        ColumnClause.collate (.verbatim name)).flatMap ColumnClause.identifiers = [] ∧
      (column.comment.toList.map ColumnClause.comment).flatMap ColumnClause.identifiers = [] := by
    cases column.collation <;> cases column.comment <;> exact ⟨rfl, rfl⟩
  simp only [mysqlClauses, List.flatMap_append, identifiers_only .unsigned rfl,
    identifiers_only .autoIncrement rfl, identifiers_only .unique rfl,
    identifiers_defaultClause, others, List.flatMap_cons, List.flatMap_nil, null, List.append_nil]

theorem noneBlank_sqliteClauses {column : Column} (named : isBlank column.name = false)
    (referenced : ∀ key ∈ plan.foreignKeys, key.WellFormed) :
    NoneBlank ((sqliteClauses plan column).flatMap ColumnClause.identifiers) ↔
      NoneBlank (plan.uncheckedColumnNames .sqlite column) := by
  have check := noneBlank_enumerationCheck? named
  have collation : (column.collation.toList.map fun name =>
      ColumnClause.collate (.verbatim name)).flatMap ColumnClause.identifiers = [] := by
    cases column.collation <;> rfl
  have references : NoneBlank ((if plan.creating then []
      else (plan.firstForeignKey? column).toList.map fun key =>
        ColumnClause.references (reference key)).flatMap ColumnClause.identifiers) ↔
      NoneBlank (plan.uncheckedColumnNames .sqlite column) := by
    unfold Plan.uncheckedColumnNames
    cases plan.creating with
    | true => exact Iff.rfl
    | false =>
      cases first : plan.firstForeignKey? column with
      | none => exact Iff.rfl
      | some key =>
        have column := (referenced key (List.mem_of_find?_eq_some first)).referencedColumn
        simp [ColumnClause.identifiers, reference, column]
  rw [← references, sqliteClauses]
  simp only [List.flatMap_append, identifiers_only .primaryAutoincrement rfl,
    identifiers_only .notNull rfl, identifiers_defaultClause, collation, List.nil_append,
    List.append_nil, noneBlank_append]
  exact and_iff_right check

theorem noneBlank_columnDefinition {column : Column} (named : isBlank column.name = false)
    (referenced : ∀ key ∈ plan.foreignKeys, key.WellFormed) :
    NoneBlank ((columnDefinition dialect plan column).clauses.flatMap ColumnClause.identifiers) ↔
      NoneBlank (plan.uncheckedColumnNames dialect column) := by
  cases dialect with
  | postgres => exact noneBlank_postgresClauses named
  | mysql =>
    show NoneBlank ((mysqlClauses column).flatMap ColumnClause.identifiers) ↔ _
    rw [identifiers_mysqlClauses]
    exact Iff.rfl
  | sqlite => exact noneBlank_sqliteClauses named referenced

/-! ## Indexes and foreign keys -/

variable (plan) in
theorem isBlank_indexName {index : Index} (wellFormed : index.WellFormed) :
    isBlank (plan.indexName index) = false := by
  unfold Plan.indexName
  cases given : index.name with
  | none => exact Name.isBlank_index ..
  | some name => exact wellFormed.named name given

theorem isBlank_foreignKeyName_iff {key : ForeignKey} :
    isBlank (plan.foreignKeyName key) = false ↔ NoneBlank key.name.toList := by
  unfold Plan.foreignKeyName
  cases key.name <;> simp [Name.isBlank_foreignKey]

variable (plan) in
theorem noneBlank_foreignKeyConstraint {key : ForeignKey} (wellFormed : key.WellFormed) :
    NoneBlank (foreignKeyConstraint plan key).identifiers ↔ NoneBlank key.uncheckedNames := by
  simp [foreignKeyConstraint, Constraint.identifiers, reference, ForeignKey.uncheckedNames,
    isBlank_foreignKeyName_iff, wellFormed.column, wellFormed.referencedColumn]

section
variable (table : NoneBlank (tablePath plan))
include table

theorem noneBlank_indexCreation {index : Index} (wellFormed : index.WellFormed)
    (qualifier : String) :
    NoneBlank (Statement.createIndex (indexCreation dialect plan index qualifier)).identifiers := by
  have columns : NoneBlank index.columns := wellFormed.columnsNamed
  cases dialect <;>
    simp [Statement.identifiers, indexCreation, IndexTarget.covered, table, columns,
      isBlank_indexName plan wellFormed]

/-- Nothing of an index is left unchecked. -/
theorem noneBlank_indexOutput {index : Index} (wellFormed : index.WellFormed) :
    ∀ statement ∈ indexOutput dialect plan index, NoneBlank statement.identifiers := by
  have columns : NoneBlank index.columns := wellFormed.columnsNamed
  have name := isBlank_indexName plan wellFormed
  intro statement given
  unfold indexOutput at given
  split at given
  · split at given
    · cases given
    · cases given
      cases dialect <;>
        simp [primaryKeyAddition, primaryKeyConstraint, Statement.identifiers, Alteration.identifiers,
          Constraint.identifiers, table, columns, name]
  · split at given
    · cases given
    · unfold indexCreation? at given
      split at given
      · cases given
        exact noneBlank_indexCreation table wellFormed _
      · cases dialect with
        | sqlite => cases given
        | postgres =>
          cases given
          simp [Statement.identifiers, IndexTarget.covered, table, columns, name]
        | mysql =>
          cases given
          have withoutMethod : { index with method := none }.WellFormed :=
            ⟨wellFormed.covers, columns, wellFormed.named⟩
          exact noneBlank_indexCreation table withoutMethod _
      · cases given
        exact noneBlank_indexCreation table wellFormed _

/-- Behind a creation or an addition only foreign keys leave names unchecked. -/
theorem noneBlank_definitionsOutput
    (indexes : ∀ index ∈ separateIndexes dialect plan, index.WellFormed)
    (foreignKeys : ∀ key ∈ plan.foreignKeys, key.WellFormed) :
    NoneBlank (identifiers (definitionsOutput dialect plan)) ↔
      NoneBlank (if constrainsInline dialect plan then []
        else plan.foreignKeys.flatMap ForeignKey.uncheckedNames) := by
  have separate : NoneBlank (identifiers
      ((separateIndexes dialect plan).filterMap (indexOutput dialect plan))) := by
    rw [identifiers, noneBlank_flatMap]
    intro statement listed
    obtain ⟨index, member, given⟩ := List.mem_filterMap.mp listed
    exact noneBlank_indexOutput table (indexes index member) statement given
  have inline (key : ForeignKey) :
      (declaresForeignKeyInline dialect plan key || dialect = .sqlite : Bool) =
        constrainsInline dialect plan := by
    cases dialect <;> simp [declaresForeignKeyInline, constrainsInline]
  have keys : plan.foreignKeys.filterMap (foreignKeyOutput dialect plan) =
      if constrainsInline dialect plan then [] else plan.foreignKeys.map (foreignKeyAddition plan) := by
    unfold foreignKeyOutput
    simp only [inline]
    cases constrainsInline dialect plan <;> simp
  rw [definitionsOutput, keys, identifiers, List.flatMap_append, noneBlank_append]
  refine (and_iff_right separate).trans ?_
  cases constrainsInline dialect plan with
  | true => exact Iff.rfl
  | false =>
    simp only [Bool.false_eq_true, if_false, List.flatMap_map, noneBlank_flatMap]
    refine forall₂_congr fun key listed => ?_
    rw [← noneBlank_foreignKeyConstraint plan (foreignKeys key listed)]
    simp [foreignKeyAddition, Statement.identifiers, Alteration.identifiers, table]

end

/-! ## Primary keys -/

/-- The columns of a key that flags make are named; its name is the first one given, if any. -/
theorem noneBlank_flaggedPrimaryKey? {columns : List Column}
    (named : ∀ column ∈ columns, isBlank column.name = false) (writesName : Bool) :
    NoneBlank ((flaggedPrimaryKey? plan columns).toList.flatMap fun key =>
        only writesName key.name ++ key.columns) ↔
      NoneBlank (if writesName then (flaggedKeyName? columns).toList else []) := by
  have keyed : ∀ column ∈ columns.filter Column.primary, isBlank column.name = false :=
    fun column listed => named column (List.mem_of_mem_filter listed)
  unfold flaggedPrimaryKey? flaggedKeyName?
  cases flagged : columns.filter Column.primary with
  | nil => simp
  | cons first rest =>
    rw [flagged] at keyed
    have columns : NoneBlank ((first :: rest).map Column.name) := noneBlank_map.mpr keyed
    cases writesName with
    | false => simpa [only] using columns
    | true =>
      cases given : (first :: rest).findSome? Column.primaryName with
      | none => simpa [only, given, Name.isBlank_primaryKey] using columns
      | some name => simpa [only, given] using fun _ => columns

/-- A declared key is checked with the indexes. -/
theorem noneBlank_primaryKey? (wellFormed : plan.WellFormed) (writesName : Bool) :
    NoneBlank ((primaryKey? plan).toList.flatMap fun key =>
        only writesName key.name ++ key.columns) ↔
      NoneBlank (if writesName && !plan.declaresPrimary then
        (flaggedKeyName? plan.columns).toList else []) := by
  unfold primaryKey?
  cases declared : plan.indexes.find? fun index => index.kind = .primary with
  | none =>
    have absent : plan.declaresPrimary = false := by
      simpa [Plan.declaresPrimary] using declared
    rw [absent, Bool.not_false, Bool.and_true]
    exact noneBlank_flaggedPrimaryKey? (fun column listed => (wellFormed.columns column listed).named)
      writesName
  | some index =>
    have listed := List.mem_of_find?_eq_some declared
    have present : plan.declaresPrimary = true := by
      have kind := List.find?_some declared
      exact List.any_eq_true.mpr ⟨index, listed, kind⟩
    have checked := wellFormed.indexes index listed
    have columns : NoneBlank index.columns := checked.columnsNamed
    rw [present, Bool.not_true, Bool.and_false]
    cases writesName <;> simp [only, columns, isBlank_indexName plan checked]

/-! ## Creations and additions -/

theorem noneBlank_inlineKeysOutput
    (indexes : ∀ index ∈ separateIndexes dialect plan, index.WellFormed)
    (creating : plan.creating = true) :
    NoneBlank ((inlineKeysOutput dialect plan).flatMap TableElement.identifiers) := by
  unfold inlineKeysOutput
  split
  · next inline =>
    have mysql : dialect = .mysql := by
      rw [declaresKeysInline, Bool.and_eq_true, decide_eq_true_eq] at inline
      exact inline.1
    subst mysql
    rw [inlineIndexes_eq_filter plan creating, List.flatMap_map, noneBlank_flatMap]
    intro index listed
    have checked := indexes index (List.mem_of_mem_filter listed)
    exact noneBlank_cons.mpr ⟨isBlank_indexName plan checked, checked.columnsNamed⟩
  · simp

section
variable (wellFormed : plan.WellFormed)
include wellFormed

variable (dialect) in
/-- The definitions of columns, each behind its name. -/
theorem noneBlank_columnDefinitions {columns : List Column}
    (stated : ∀ column ∈ columns, column ∈ plan.columns) :
    NoneBlank (columns.flatMap fun column =>
        (columnDefinition dialect plan column).name ::
          (columnDefinition dialect plan column).clauses.flatMap ColumnClause.identifiers) ↔
      NoneBlank (columns.flatMap (plan.uncheckedColumnNames dialect)) := by
  rw [noneBlank_flatMap, noneBlank_flatMap]
  refine forall₂_congr fun column listed => ?_
  have named := (wellFormed.columns column (stated column listed)).named
  rw [noneBlank_cons, noneBlank_columnDefinition named wellFormed.foreignKeys]
  exact and_iff_right named

variable (dialect) in
theorem noneBlank_primaryKeyElementsOutput :
    NoneBlank ((primaryKeyElementsOutput dialect plan).flatMap TableElement.identifiers) ↔
      NoneBlank (if dialect = .postgres && !plan.declaresPrimary then
        (flaggedKeyName? plan.columns).toList else []) := by
  have key := noneBlank_primaryKey? wellFormed (dialect = .postgres)
  have elements : ((primaryKey? plan).toList.map fun key => TableElement.constraint
      (.primaryKey (if dialect = .postgres then some key.name else none) key.columns)).flatMap
        TableElement.identifiers =
      (primaryKey? plan).toList.flatMap fun key =>
        only (dialect = .postgres) key.name ++ key.columns := by
    rw [List.flatMap_map]
    cases dialect <;> rfl
  unfold primaryKeyElementsOutput
  split
  · next autoincrement =>
    have sqlite : dialect = .sqlite := by
      rw [Bool.and_eq_true, decide_eq_true_eq] at autoincrement
      exact autoincrement.1
    subst sqlite
    simp
  · rw [elements, key]

variable (dialect) in
theorem noneBlank_inlineForeignKeysOutput :
    NoneBlank (((inlineForeignKeysOutput dialect plan).map TableElement.constraint).flatMap
        TableElement.identifiers) ↔
      NoneBlank (if constrainsInline dialect plan then
        plan.foreignKeys.flatMap ForeignKey.uncheckedNames else []) := by
  unfold inlineForeignKeysOutput
  cases constrainsInline dialect plan with
  | false => simp
  | true =>
    simp only [if_true, List.map_map, List.flatMap_map, noneBlank_flatMap]
    exact forall₂_congr fun key listed =>
      noneBlank_foreignKeyConstraint plan (wellFormed.foreignKeys key listed)

variable (table : NoneBlank (tablePath plan))
include table

variable (dialect) in
theorem noneBlank_columnComments {columns : List Column}
    (stated : ∀ column ∈ columns, column ∈ plan.columns) :
    NoneBlank (identifiers (columnComments dialect plan columns)) := by
  rw [identifiers, noneBlank_flatMap]
  cases dialect with
  | postgres =>
    intro statement listed
    obtain ⟨column, member, comment⟩ := List.mem_filterMap.mp listed
    obtain ⟨text, _, rfl⟩ := Option.map_eq_some_iff.mp comment
    simp [Statement.identifiers, table, (wellFormed.columns column (stated column member)).named]
  | mysql | sqlite => exact List.forall_mem_nil _

/-- A creation and what belongs to it. -/
theorem noneBlank_creation (indexes : ∀ index ∈ separateIndexes dialect plan, index.WellFormed)
    (creating : plan.creating = true) (ifNotExists : Bool) :
    NoneBlank (identifiers
        (createTableOutput dialect plan ifNotExists ++ definitionsOutput dialect plan)) ↔
      NoneBlank (plan.uncheckedDefinitionNames dialect) := by
  have comments := noneBlank_columnComments dialect wellFormed table fun _ => id
  have columns := noneBlank_columnDefinitions dialect wellFormed fun _ => id
  have primary := noneBlank_primaryKeyElementsOutput dialect wellFormed
  have keys := noneBlank_inlineKeysOutput indexes creating
  have inline := noneBlank_inlineForeignKeysOutput dialect wellFormed
  have definitions := noneBlank_definitionsOutput table indexes wellFormed.foreignKeys
  -- The foreign keys are constraints of the table or follow it, never both.
  have foreignKeys : NoneBlank (plan.foreignKeys.flatMap ForeignKey.uncheckedNames) ↔
      NoneBlank (if constrainsInline dialect plan then
          plan.foreignKeys.flatMap ForeignKey.uncheckedNames else []) ∧
        NoneBlank (if constrainsInline dialect plan then []
          else plan.foreignKeys.flatMap ForeignKey.uncheckedNames) := by
    cases constrainsInline dialect plan <;> simp
  have made : NoneBlank (identifiers (createTableOutput dialect plan ifNotExists)) ↔
      NoneBlank (plan.columns.flatMap (plan.uncheckedColumnNames dialect)) ∧
        NoneBlank (if dialect = .postgres && !plan.declaresPrimary then
          (flaggedKeyName? plan.columns).toList else []) ∧
        NoneBlank (if constrainsInline dialect plan then
          plan.foreignKeys.flatMap ForeignKey.uncheckedNames else []) := by
    rw [← columns, ← primary, ← inline, createTableOutput, identifiers, List.flatMap_cons,
      noneBlank_append, Statement.identifiers, noneBlank_append, List.flatMap_append, noneBlank_append,
      tableConstraintsOutput, List.flatMap_append, List.flatMap_append, noneBlank_append,
      noneBlank_append, List.flatMap_map]
    simp only [table, keys, comments, true_and, and_true]
    exact Iff.rfl
  rw [identifiers, List.flatMap_append, noneBlank_append, made, definitions,
    Plan.uncheckedDefinitionNames, flaggedColumns_of_creating plan creating, noneBlank_append,
    noneBlank_append, creating, Bool.not_true, Bool.and_false, if_neg Bool.false_ne_true, foreignKeys]
  grind

omit wellFormed table in
theorem identifiers_columnAdditions :
    (columnAdditions dialect plan).flatMap Alteration.identifiers =
      plan.addedColumns.flatMap fun column => (columnDefinition dialect plan column).name ::
        (columnDefinition dialect plan column).clauses.flatMap ColumnClause.identifiers := by
  rw [columnAdditions, List.flatMap_map]
  rfl

omit table in
/-- The key that new columns bring, where a key can be added at all. -/
theorem noneBlank_addedPrimaryKey (notSqlite : dialect ≠ .sqlite) :
    NoneBlank (((addedPrimaryKey? plan).toList.map fun key =>
        Alteration.addConstraint (primaryKeyConstraint dialect key)).flatMap
        Alteration.identifiers) ↔
      NoneBlank (if dialect = .postgres && !plan.declaresPrimary then
        (flaggedKeyName? plan.addedColumns).toList else []) := by
  have named (column : Column) (listed : column ∈ plan.addedColumns) :
      isBlank column.name = false :=
    (wellFormed.columns column (List.mem_of_mem_filter listed)).named
  have written : ((addedPrimaryKey? plan).toList.map fun key =>
      Alteration.addConstraint (primaryKeyConstraint dialect key)).flatMap
        Alteration.identifiers =
      (addedPrimaryKey? plan).toList.flatMap fun key =>
        only (dialect = .postgres) key.name ++ key.columns := by
    rw [List.flatMap_map]
    cases dialect with
    | sqlite => exact absurd rfl notSqlite
    | postgres | mysql => rfl
  rw [written, addedPrimaryKey?]
  cases plan.declaresPrimary with
  | true => simp
  | false =>
    rw [Bool.not_false, Bool.and_true]
    exact noneBlank_flaggedPrimaryKey? named (dialect = .postgres)

/-- New columns, with the key that they bring. -/
theorem noneBlank_addColumnsOutput :
    NoneBlank (identifiers (addColumnsOutput dialect plan)) ↔
      NoneBlank (plan.addedColumns.flatMap (plan.uncheckedColumnNames dialect)) ∧
        NoneBlank (if dialect = .postgres && !plan.declaresPrimary then
          (flaggedKeyName? plan.addedColumns).toList else []) := by
  have stated : ∀ column ∈ plan.addedColumns, column ∈ plan.columns :=
    fun _ => List.mem_of_mem_filter
  have comments := noneBlank_columnComments dialect wellFormed table stated
  have columns := noneBlank_columnDefinitions dialect wellFormed stated
  unfold addColumnsOutput
  split
  · next sqlite =>
    subst sqlite
    rw [← columns, ← identifiers_columnAdditions, identifiers, List.flatMap_map]
    simp [Statement.identifiers, table]
  · next notSqlite =>
    have key := noneBlank_addedPrimaryKey wellFormed notSqlite
    split
    · next nothing =>
      rw [List.isEmpty_iff] at nothing
      simp [nothing, flaggedKeyName?]
    · rw [← columns, ← key, identifiers, List.flatMap_cons, noneBlank_append, Statement.identifiers,
        noneBlank_append, List.flatMap_append, noneBlank_append, identifiers_columnAdditions]
      simp only [table, comments, true_and, and_true]

/-- An addition to an existing table and what belongs to it. -/
theorem noneBlank_addition (indexes : ∀ index ∈ separateIndexes dialect plan, index.WellFormed)
    (existing : plan.creating = false) :
    NoneBlank (identifiers (addColumnsOutput dialect plan ++ definitionsOutput dialect plan)) ↔
      NoneBlank (plan.uncheckedDefinitionNames dialect) := by
  have flagged : flaggedColumns plan = plan.addedColumns := by
    rw [flaggedColumns, existing, if_neg Bool.false_ne_true]
  have separate : (dialect = .sqlite && !plan.creating : Bool) = constrainsInline dialect plan := by
    rw [constrainsInline, existing, Plan.ifNotExists_eq_false_of_existing existing, Bool.not_false,
      Bool.and_true, Bool.or_false]
  rw [identifiers, List.flatMap_append, noneBlank_append,
    noneBlank_addColumnsOutput wellFormed table,
    noneBlank_definitionsOutput table indexes wellFormed.foreignKeys, Plan.uncheckedDefinitionNames,
    flagged, separate, noneBlank_append, noneBlank_append]

omit wellFormed in
theorem noneBlank_changeColumn {column : Column} (named : isBlank column.name = false) :
    NoneBlank (changeColumn plan column).identifiers ↔
      NoneBlank (plan.uncheckedColumnNames .postgres column) := by
  unfold changeColumn
  cases column.nullable <;> cases column.autoIncrement <;> cases column.defaultValue <;>
    simp [only, Statement.identifiers, Alteration.identifiers, Plan.uncheckedColumnNames, table, named]

/-- Changed columns; in sqlite there are none. -/
theorem noneBlank_changeColumnsOutput (passed : changeColumnsVerdict dialect plan = .ok ()) :
    NoneBlank (identifiers (changeColumnsOutput dialect plan)) ↔
      NoneBlank (plan.changedColumns.flatMap (plan.uncheckedColumnNames dialect)) := by
  have stated : ∀ column ∈ plan.changedColumns, column ∈ plan.columns :=
    fun _ => List.mem_of_mem_filter
  cases dialect with
  | sqlite =>
    have unchanged : plan.changedColumns = [] := by
      simpa using (bind_eq_ok_iff.mp passed).2
    simp [unchanged, changeColumnsOutput]
  | mysql =>
    have columns := noneBlank_columnDefinitions .mysql wellFormed stated
    rw [changeColumnsOutput_mysql]
    split
    · next nothing =>
      rw [List.isEmpty_iff] at nothing
      simp [nothing]
    · rw [← columns]
      simp [Statement.identifiers, Alteration.identifiers, List.flatMap_map, table]
  | postgres =>
    have comments := noneBlank_columnComments .postgres wellFormed table stated
    rw [changeColumnsOutput, identifiers, List.flatMap_append, noneBlank_append, noneBlank_flatMap]
    refine (and_iff_left comments).trans ?_
    rw [List.forall_mem_map, noneBlank_flatMap]
    refine forall₂_congr fun column listed => ?_
    exact noneBlank_changeColumn table (wellFormed.columns column (stated column listed)).named

end

/-! ## The other commands -/

theorem checkColumnNames_eq_ok_iff {names : List String} :
    checkColumnNames plan names = .ok () ↔ NoneBlank names := by
  simp [checkColumnNames, NoneBlank]

theorem checkIndexNames_eq_ok_iff {names : List String} :
    checkIndexNames plan names = .ok () ↔ NoneBlank names := by
  simp [checkIndexNames, NoneBlank]

section
variable (table : NoneBlank (tablePath plan))
include table

/-- Nothing is written but the table and the names that an action works on. -/
theorem noneBlank_actions {α : Type} {list : List α} {action : α → Alteration} :
    NoneBlank (identifiers (list.map fun a => .alterTable (tablePath plan) [action a])) ↔
      NoneBlank (list.flatMap fun a => (action a).identifiers) := by
  simp [List.flatMap_map, Statement.identifiers, table]

theorem noneBlank_dropIndexes (schema : NoneBlank plan.schema?.toList) {names : List String}
    (passed : dropIndexesVerdict plan names = .ok ()) :
    NoneBlank (identifiers (names.map (dropIndex dialect plan))) := by
  have named := checkIndexNames_eq_ok_iff.mp (bind_eq_ok_iff.mp passed).2
  rw [identifiers, List.flatMap_map, noneBlank_flatMap]
  intro name listed
  have own := named name listed
  cases dialect with
  | mysql => simp [dropIndex, Statement.identifiers, Alteration.identifiers, table, own]
  | postgres | sqlite => simp [dropIndex, Statement.identifiers, indexPath, schema, own]

omit table in
theorem ne_sqlite_of_alterationVerdict {work : UnsupportedWork}
    (passed : alterationVerdict dialect plan work = .ok ()) : dialect ≠ .sqlite := by
  rintro rfl
  cases refuseIf_eq_ok_iff.mp (bind_eq_ok_iff.mp passed).2

theorem noneBlank_dropColumnsOutput (passed : dropColumnsVerdict plan = .ok ()) :
    NoneBlank (identifiers (dropColumnsOutput dialect plan)) := by
  have named := checkColumnNames_eq_ok_iff.mp (bind_eq_ok_iff.mp passed).2
  have actions : NoneBlank ((plan.dropColumns.map .dropColumn).flatMap Alteration.identifiers) := by
    simpa [List.flatMap_map, Alteration.identifiers] using named
  cases dialect with
  | sqlite => exact (noneBlank_actions table).mpr (by simpa [Alteration.identifiers] using named)
  | postgres | mysql => simp [dropColumnsOutput, Statement.identifiers, table, actions]

/-- A new name without a dot is checked as a whole; the parts of one with a dot are not. -/
theorem noneBlank_renameTableOutput (schema : NoneBlank plan.schema?.toList)
    (passed : renameTableVerdict plan = .ok ()) :
    NoneBlank (identifiers [renameTableOutput dialect plan]) ↔
      NoneBlank (plan.uncheckedNames dialect .rename) := by
  have given := refuseIf_eq_ok_iff.mp (bind_eq_ok_iff.mp passed).2
  cases renamed : plan.newName with
  | none => simp [renamed] at given
  | some new =>
    have named : isBlank new = false := by simpa [renamed] using given
    unfold renameTableOutput Plan.uncheckedNames
    simp only [renamed, Option.getD_some]
    cases qualified : Name.isQualified new with
    | true => cases dialect <;> simp [Statement.identifiers, Alteration.identifiers, table]
    | false =>
      have whole := Name.unqualified_of_singleton (Name.segments_of_not_isQualified qualified)
      cases dialect <;>
        simp [Statement.identifiers, Alteration.identifiers, table, schema, whole, named]

end

/-- What the statements of a command leave unchecked. -/
theorem noneBlank_commandOutput {asked : Command}
    (accepted : checkTableName dialect plan.table = .ok ()) (wellFormed : plan.WellFormed)
    (creation : asked.isCreate = true → plan.creating = true)
    (addition : asked = .add → plan.creating = false)
    (passed : commandVerdict dialect plan asked = .ok ()) :
    NoneBlank (identifiers (commandOutput dialect plan asked)) ↔
      NoneBlank (plan.uncheckedNames dialect asked) := by
  have table : NoneBlank (tablePath plan) := noneBlank_segments accepted
  have schema : NoneBlank plan.schema?.toList := noneBlank_schema? accepted
  cases asked with
  | create | createIfNotExists =>
    have indexes := (wellFormed_of_definitionsVerdict (bind_eq_ok_iff.mp passed).2).1
    exact noneBlank_creation wellFormed table indexes (creation rfl) _
  | add =>
    have indexes := (wellFormed_of_definitionsVerdict (bind_eq_ok_iff.mp passed).2).1
    exact noneBlank_addition wellFormed table indexes (addition rfl)
  | change => exact noneBlank_changeColumnsOutput wellFormed table passed
  | drop | dropIfExists =>
    simpa [commandOutput, Statement.identifiers, Plan.uncheckedNames] using table
  | rename => exact noneBlank_renameTableOutput table schema passed
  | dropColumn => exact iff_of_true (noneBlank_dropColumnsOutput table passed) noneBlank_nil
  | renameColumn =>
    have named := checkColumnNames_eq_ok_iff.mp (bind_eq_ok_iff.mp passed).2
    exact iff_of_true ((noneBlank_actions table).mpr named) noneBlank_nil
  | dropIndex | dropUnique =>
    exact iff_of_true (noneBlank_dropIndexes table schema passed) noneBlank_nil
  | dropFullText =>
    cases dialect with
    | sqlite => exact Iff.rfl
    | postgres | mysql =>
      exact iff_of_true (noneBlank_dropIndexes table schema passed) noneBlank_nil
  | dropPrimary =>
    cases dialect with
    | sqlite => exact absurd rfl (ne_sqlite_of_alterationVerdict passed)
    | postgres | mysql =>
      exact (noneBlank_actions table).trans (by simp [Alteration.identifiers, Plan.uncheckedNames])
  | renameIndex =>
    cases dialect with
    | sqlite => exact absurd rfl (ne_sqlite_of_alterationVerdict passed)
    | mysql => exact noneBlank_actions table
    | postgres =>
      simp [commandOutput, renameIndexesOutput, Plan.uncheckedNames, List.flatMap_map,
        Statement.identifiers, indexPath, schema]
  | dropForeign =>
    cases dialect with
    | sqlite => exact absurd rfl (ne_sqlite_of_alterationVerdict passed)
    | postgres | mysql =>
      exact (noneBlank_actions table).trans (by simp [Alteration.identifiers, Plan.uncheckedNames])
  | comment =>
    refine iff_of_true ?_ noneBlank_nil
    cases dialect with
    | sqlite => exact noneBlank_nil
    | postgres =>
      simp [commandOutput, tableCommentOutput, List.flatMap_map, Statement.identifiers, table]
    | mysql =>
      simp only [commandOutput, tableCommentOutput]
      split
      · exact noneBlank_nil
      · exact (noneBlank_actions table).mpr (by simp [Alteration.identifiers])

end

end Compile

namespace Plan

variable {dialect : Dialect} {table : String} {steps : List Step} {texts : List String}

/-- Of a plan that is built over an accepted name and compiles, the statements name all that they are
about exactly when none of the names that no check looks at is blank; and what a statement names is
what a reader finds in its text, unless the caller puts in SQL of its own. -/
theorem names_toSql (accepted : checkTableName dialect table = .ok ())
    (compiled : (build table steps).toSql dialect = .ok texts) :
    ∃ statements, (build table steps).statements dialect = .ok statements ∧
      texts = statements.map (Statement.text dialect) ∧
      ((∀ statement ∈ statements, NoneBlank statement.identifiers) ↔
        ∀ asked ∈ (build table steps).commands,
          NoneBlank ((build table steps).uncheckedNames dialect asked)) ∧
      ((build table steps).HasNoRawText dialect → ∀ statement ∈ statements,
        (read? dialect.nameQuote (statement.text dialect)).map Reading.identifiers =
          some statement.identifiers) := by
  obtain ⟨passed, given, written⟩ := statements_of_toSql compiled
  have order := asksInOrder_build table steps
  refine ⟨_, given, written, ?_, ?_⟩
  · rw [← noneBlank_flatMap, output, List.flatMap_assoc, noneBlank_flatMap]
    refine forall₂_congr fun asked listed => ?_
    refine noneBlank_commandOutput ?_ (wellFormed_of_verdict passed)
      (creating_of_mem_commands order listed) ?_ (forM_eq_ok_iff.mp passed asked listed)
    · rwa [table_build]
    · rintro rfl
      cases creating : (build table steps).creating with
      | false => rfl
      | true => exact absurd (commands_of_creating creating ▸ listed) order.noAddition
  · intro noRaw statement listed
    obtain ⟨asked, _, inside⟩ := List.mem_flatMap.mp listed
    exact read?_statement (isPlain_commandOutput noRaw asked statement inside)

/-- A renamed index and a foreign key with names of their own. -/
theorem names_toSql_renamedIndex :
    let steps : List Step :=
      [.foreignKey "author_id" [.references "id", .on "auth.users", .named "author"],
        .renameIndex "old" "new"]
    checkTableName .postgres "app.posts" = .ok () ∧
    (build "app.posts" steps).toSql .postgres =
      .ok ["ALTER TABLE \"app\".\"posts\" ADD CONSTRAINT \"author\" FOREIGN KEY (\"author_id\") " ++
          "REFERENCES \"auth\".\"users\" (\"id\")",
        "ALTER INDEX \"app\".\"old\" RENAME TO \"new\""] ∧
    ∃ statements, (build "app.posts" steps).statements .postgres = .ok statements ∧
      ∀ statement ∈ statements, NoneBlank statement.identifiers := by
  intro steps
  have accepted : checkTableName .postgres "app.posts" = .ok () := by decide +kernel
  have compiled : (build "app.posts" steps).toSql .postgres =
      .ok ["ALTER TABLE \"app\".\"posts\" ADD CONSTRAINT \"author\" FOREIGN KEY (\"author_id\") " ++
          "REFERENCES \"auth\".\"users\" (\"id\")",
        "ALTER INDEX \"app\".\"old\" RENAME TO \"new\""] := by
    decide +kernel
  obtain ⟨statements, given, _, named, _⟩ := names_toSql accepted compiled
  refine ⟨accepted, compiled, statements, given, named.mpr ?_⟩
  unfold NoneBlank
  decide +kernel

/-- An index without a name is refused when it is dropped and written when it is renamed. -/
theorem blank_index_renamed :
    checkTableName .postgres "t" = .ok () ∧
    (build "t" [.renameIndex "" "b"]).toSql .postgres = .ok ["ALTER INDEX \"\" RENAME TO \"b\""] ∧
    read? Dialect.postgres.nameQuote "ALTER INDEX \"\" RENAME TO \"b\"" =
      some
        { template := "ALTER INDEX # RENAME TO #"
          identifiers := ["", "b"]
          literals := [] } ∧
    isBlank "" = true ∧
    (build "t" [.dropIndex ""]).toSql .postgres = .error (.emptyIndexName "t") := by
  decide +kernel

end Plan

end TablePlan

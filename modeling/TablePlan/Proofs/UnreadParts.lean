import TablePlan.Plan.Step
import TablePlan.Proofs.Outcome

/-!
# What a dialect does not read

Only mysql reads the options of a table and whether a number may be negative, and sqlite reads neither
comments nor the access methods of indexes nor the sizes of types.  The essence of a plan is what a
dialect reads of it.  The essence of the steps builds the essence of the plan (`build_essence`), and
every command refuses and gives out the same for both (`commandVerdict_essence`,
`commandOutput_essence`).  Main statement: nothing that a dialect does not read is seen in what it
makes of a plan (`unread_parts_unseen`).
-/

namespace TablePlan

/-! ## Steps without their unread parts -/

/-- The type without its sizes: its length, its precision and scale, or its reference system. -/
def ColumnType.unsized : ColumnType → ColumnType
  | .char _ => .char 0
  | .string _ => .string 0
  | .decimal .. => .decimal 0 0
  | .float _ => .float none
  | .time _ => .time none
  | .timeTz _ => .timeTz none
  | .dateTime _ => .dateTime none
  | .dateTimeTz _ => .dateTimeTz none
  | .timestamp _ => .timestamp none
  | .timestampTz _ => .timestampTz none
  | .spatial kind _ => .spatial kind none
  | type => type

def ColumnModifier.isComment : ColumnModifier → Bool
  | .comment _ => true
  | _ => false

def ColumnModifier.isPrecision : ColumnModifier → Bool
  | .precision _ => true
  | _ => false

def IndexModifier.isMethod : IndexModifier → Bool
  | .using _ => true
  | _ => false

namespace Step

/-- The step without what only mysql reads, unless nothing is left. -/
def withoutHints? : Step → Option Step
  | .engine _ | .charset _ | .collation _ => none
  | .column name type modifiers =>
    some (.column name type (modifiers.filter fun modifier => modifier ≠ .unsigned))
  | step => some step

/-- The step without comments and access methods, unless nothing is left. -/
def withoutNotes? : Step → Option Step
  | .comment _ => none
  | .column name type modifiers =>
    some (.column name type (modifiers.filter fun modifier => !modifier.isComment))
  | .index kind columns modifiers =>
    some (.index kind columns (modifiers.filter fun modifier => !modifier.isMethod))
  | step => some step

/-- The step without the sizes of types, be they stated with the type or after it. -/
def unsized : Step → Step
  | .column name type modifiers =>
    .column name type.unsized (modifiers.filter fun modifier => !modifier.isPrecision)
  | step => step

end Step

/-! ## What a dialect reads -/

/-- What a dialect reads of a type. -/
def ColumnType.essence (dialect : Dialect) (type : ColumnType) : ColumnType :=
  if dialect = .sqlite then type.unsized else type

/-- Whether a dialect reads a modifier of a column. -/
def ColumnModifier.isRead (dialect : Dialect) : ColumnModifier → Bool
  | .unsigned => dialect = .mysql
  | .comment _ | .precision _ => dialect ≠ .sqlite
  | _ => true

/-- Whether a dialect reads a modifier of an index. -/
def IndexModifier.isRead (dialect : Dialect) : IndexModifier → Bool
  | .using _ => dialect ≠ .sqlite
  | .named _ => true

/-- Whether a dialect carries out a command at all. -/
def Command.isRead (dialect : Dialect) : Command → Bool
  | .comment => dialect ≠ .sqlite
  | _ => true

/-- What a dialect reads of a step, if anything. -/
def Step.essence? (dialect : Dialect) : Step → Option Step
  | .engine name => if dialect = .mysql then some (.engine name) else none
  | .charset name => if dialect = .mysql then some (.charset name) else none
  | .collation name => if dialect = .mysql then some (.collation name) else none
  | .comment text => if dialect = .sqlite then none else some (.comment text)
  | .column name type modifiers =>
    some (.column name (type.essence dialect)
      (modifiers.filter (ColumnModifier.isRead dialect)))
  | .index kind columns modifiers =>
    some (.index kind columns (modifiers.filter (IndexModifier.isRead dialect)))
  | step => some step

/-- What a dialect reads of a column. -/
def Column.essence (dialect : Dialect) (column : Column) : Column :=
  { column with
    type := column.type.essence dialect
    comment := if dialect = .sqlite then none else column.comment
    unsigned := dialect = .mysql && column.unsigned }

/-- What a dialect reads of an index. -/
def Index.essence (dialect : Dialect) (index : Index) : Index :=
  { index with method := if dialect = .sqlite then none else index.method }

/-- What a dialect reads of a plan. -/
def Plan.essence (dialect : Dialect) (plan : Plan) : Plan :=
  { plan with
    engine := if dialect = .mysql then plan.engine else none
    charset := if dialect = .mysql then plan.charset else none
    collation := if dialect = .mysql then plan.collation else none
    comment := if dialect = .sqlite then none else plan.comment
    columns := plan.columns.map (Column.essence dialect)
    indexes := plan.indexes.map (Index.essence dialect)
    requested := plan.requested.filter (Command.isRead dialect) }

/-! ## The essence of the steps builds the essence of the plan -/

/-- If what is kept of an entry makes the same difference to what is kept of a state, what is kept of
a list of entries does so. -/
theorem foldl_kept {α β : Type} {advance : α → β → α} {core : α → α} {kept? : β → Option β}
    (each : ∀ a b, core (advance a b) = (kept? b).elim (core a) (advance (core a))) (list : List β)
    (a : α) : core (list.foldl advance a) = (list.filterMap kept?).foldl advance (core a) := by
  induction list generalizing a with
  | nil => rfl
  | cons b rest ih =>
    rw [List.foldl_cons, ih, each]
    cases kept : kept? b with
    | none => rw [List.filterMap_cons_none kept, Option.elim_none]
    | some c => rw [List.filterMap_cons_some kept, Option.elim_some, List.foldl_cons]

theorem ColumnType.unsized_withPrecision (precision : UInt8) (type : ColumnType) :
    (type.withPrecision precision).unsized = type.unsized := by
  cases type <;> rfl

theorem ColumnType.unsized_unsized (type : ColumnType) : type.unsized.unsized = type.unsized := by
  cases type <;> rfl

section
variable (dialect : Dialect)

theorem ColumnModifier.essence_apply (column : Column) (modifier : ColumnModifier) :
    (modifier.apply column).essence dialect =
      (Option.guard (isRead dialect) modifier).elim (column.essence dialect)
        fun read => read.apply (column.essence dialect) := by
  cases modifier with
  | unsigned | comment | precision =>
    cases dialect <;> simp [apply, isRead, Column.essence, ColumnType.essence,
      ColumnType.unsized_withPrecision, Option.guard]
  | _ => rfl

theorem Column.essence_declare (name : String) (type : ColumnType)
    (modifiers : List ColumnModifier) :
    (declare name type modifiers).essence dialect =
      declare name (type.essence dialect) (modifiers.filter (ColumnModifier.isRead dialect)) := by
  have start : ({ name, type } : Column).essence dialect = { name, type := type.essence dialect } := by
    cases dialect <;> rfl
  unfold declare
  rw [foldl_kept (ColumnModifier.essence_apply dialect), start, List.filterMap_eq_filter]

theorem IndexModifier.essence_apply (index : Index) (modifier : IndexModifier) :
    (modifier.apply index).essence dialect =
      (Option.guard (isRead dialect) modifier).elim (index.essence dialect)
        fun read => read.apply (index.essence dialect) := by
  cases modifier with
  | named => rfl
  | _ => cases dialect <;> rfl

theorem Index.essence_declare (kind : IndexKind) (columns : List String)
    (modifiers : List IndexModifier) :
    (declare kind columns modifiers).essence dialect =
      declare kind columns (modifiers.filter (IndexModifier.isRead dialect)) := by
  have start : ({ kind, columns } : Index).essence dialect = { kind, columns } := by
    cases dialect <;> rfl
  unfold declare
  rw [foldl_kept (IndexModifier.essence_apply dialect), start, List.filterMap_eq_filter]

end

namespace Plan

variable (dialect : Dialect) (plan : Plan)

theorem essence_request {command : Command} (read : command.isRead dialect = true) :
    (plan.request command).essence dialect = (plan.essence dialect).request command := by
  have known : command ∈ (plan.essence dialect).requested ↔ command ∈ plan.requested := by
    simp [essence, read]
  unfold request
  by_cases present : command ∈ plan.requested
  · rw [if_pos present, if_pos (known.mpr present)]
  · rw [if_neg present, if_neg (mt known.mp present)]
    simp [essence, read]

/-- The comment of a table leaves no trace in sqlite. -/
theorem essence_request_comment (text : String) :
    ({ plan with comment := some text }.request .comment).essence .sqlite = plan.essence .sqlite := by
  unfold request
  split <;> simp [essence, Command.isRead]

theorem essence_apply (step : Step) :
    (plan.apply step).essence dialect =
      (step.essence? dialect).elim (plan.essence dialect) (plan.essence dialect).apply := by
  cases step with
  | engine | charset | collation => cases dialect <;> rfl
  | comment text =>
    cases dialect with
    | sqlite => exact essence_request_comment plan text
    | postgres | mysql => exact essence_request _ _ rfl
  | column name type modifiers =>
    simp only [apply, essence, Step.essence?, Option.elim_some, List.map_append, List.map_cons,
      List.map_nil, Column.essence_declare]
  | index kind columns modifiers =>
    simp only [apply, essence, Step.essence?, Option.elim_some, List.map_append, List.map_cons,
      List.map_nil, Index.essence_declare]
  | foreignKey => rfl
  | _ => exact essence_request _ _ rfl

/-- Nothing escapes mysql. -/
theorem essence_mysql : plan.essence .mysql = plan := by
  have columns : plan.columns.map (Column.essence .mysql) = plan.columns := List.map_id _
  have indexes : plan.indexes.map (Index.essence .mysql) = plan.indexes := List.map_id _
  have requested : plan.requested.filter (Command.isRead .mysql) = plan.requested := by
    refine List.filter_eq_self.mpr fun asked _ => ?_
    cases asked <;> rfl
  unfold essence
  rw [columns, indexes, requested]
  rfl

theorem build_essence (table : String) (steps : List Step) :
    (build table steps).essence dialect = build table (steps.filterMap (Step.essence? dialect)) := by
  have start : ({ table } : Plan).essence dialect = { table } := by cases dialect <;> rfl
  unfold build
  rw [foldl_kept (essence_apply dialect), start]

end Plan

/-! ## Every command reads the essence only -/

namespace Compile

section
variable (dialect : Dialect) (plan : Plan)

@[simp] theorem creating_essence : (plan.essence dialect).creating = plan.creating := by
  have creations (asked : Command) : (asked.isRead dialect && asked.isCreate) = asked.isCreate := by
    cases asked <;> simp [Command.isRead, Command.isCreate]
  simp only [Plan.creating, Plan.essence, List.any_filter, creations]

@[simp] theorem ifNotExists_essence : (plan.essence dialect).ifNotExists = plan.ifNotExists := by
  simp [Plan.ifNotExists, Plan.essence, Command.isRead]

theorem addedColumns_essence :
    (plan.essence dialect).addedColumns = plan.addedColumns.map (Column.essence dialect) :=
  List.filter_map

theorem changedColumns_essence :
    (plan.essence dialect).changedColumns = plan.changedColumns.map (Column.essence dialect) :=
  List.filter_map

/-! ### Columns -/

theorem enumeration_essence_iff (type : ColumnType) (allowed : List String) :
    type.essence dialect = .enumeration allowed ↔ type = .enumeration allowed := by
  unfold ColumnType.essence
  split
  · cases type <;> simp [ColumnType.unsized]
  · rfl

theorem checkColumns_essence : checkColumns (plan.essence dialect) = checkColumns plan := by
  -- The names before a column differ from step to step, so the induction is over all of them.
  have after (seen : List String) (columns : List Column) :
      checkColumnsAfter plan.table seen (columns.map (Column.essence dialect)) =
        checkColumnsAfter plan.table seen columns := by
    induction columns generalizing seen with
    | nil => rfl
    | cons column rest ih =>
      simp only [List.map_cons, checkColumnsAfter, Column.essence, enumeration_essence_iff, ih]
  exact after [] plan.columns

theorem defaultPiece_essence (type : ColumnType) (value : DefaultValue) :
    defaultPiece dialect (type.essence dialect) value = defaultPiece dialect type value := by
  have temporal : (type.essence dialect).isTemporal = type.isTemporal := by
    unfold ColumnType.essence
    split
    · cases type <;> rfl
    · rfl
  cases value with
  | string text => simp only [defaultPiece, temporal]
  | _ => rfl

theorem nativeType_essence (column : Column) :
    nativeType dialect (column.essence dialect) = nativeType dialect column := by
  cases dialect with
  | postgres | mysql => rfl
  | sqlite =>
    show sqliteType column.type.unsized = sqliteType column.type
    cases column.type <;> rfl

theorem enumerationCheck?_essence (column : Column) :
    enumerationCheck? (column.essence dialect) = enumerationCheck? column := by
  cases dialect with
  | postgres | mysql => rfl
  | sqlite =>
    unfold enumerationCheck? Column.essence ColumnType.essence
    cases column.type <;> rfl

theorem columnDefinition_essence (column : Column) :
    columnDefinition dialect (plan.essence dialect) (column.essence dialect) =
      columnDefinition dialect plan column := by
  have default : defaultClause dialect (column.essence dialect) = defaultClause dialect column := by
    simp only [defaultClause, Column.essence, defaultPiece_essence]
  unfold columnDefinition
  rw [nativeType_essence]
  cases dialect with
  | postgres | mysql => rfl
  | sqlite =>
    simp only [sqliteClauses, default, enumerationCheck?_essence, creating_essence]
    rfl

theorem columnComments_essence (columns : List Column) :
    columnComments dialect (plan.essence dialect) (columns.map (Column.essence dialect)) =
      columnComments dialect plan columns := by
  cases dialect with
  | mysql | sqlite => rfl
  | postgres => exact List.filterMap_map

/-! ### The primary key -/

theorem flaggedPrimaryKey?_essence (columns : List Column) :
    flaggedPrimaryKey? (plan.essence dialect) (columns.map (Column.essence dialect)) =
      flaggedPrimaryKey? plan columns := by
  have flagged : (columns.map (Column.essence dialect)).filter Column.primary =
      (columns.filter Column.primary).map (Column.essence dialect) := List.filter_map
  unfold flaggedPrimaryKey?
  rw [flagged]
  cases columns.filter Column.primary with
  | nil => rfl
  | cons column others =>
    simp only [List.map_cons, List.findSome?_cons, List.findSome?_map, List.map_map]
    rfl

theorem find?_primary_essence :
    (plan.essence dialect).indexes.find? (fun index => index.kind = .primary) =
      (plan.indexes.find? fun index => index.kind = .primary).map (Index.essence dialect) :=
  List.find?_map

theorem addedPrimaryKey?_essence :
    addedPrimaryKey? (plan.essence dialect) = addedPrimaryKey? plan := by
  have declares : (plan.essence dialect).declaresPrimary = plan.declaresPrimary := List.any_map
  unfold addedPrimaryKey?
  rw [declares, addedColumns_essence, flaggedPrimaryKey?_essence]

theorem primaryKey?_essence : primaryKey? (plan.essence dialect) = primaryKey? plan := by
  unfold primaryKey?
  rw [find?_primary_essence]
  cases plan.indexes.find? fun index => index.kind = .primary with
  | none => exact flaggedPrimaryKey?_essence dialect plan plan.columns
  | some index => rfl

theorem primaryKeyVerdict_essence :
    primaryKeyVerdict (plan.essence dialect) = primaryKeyVerdict plan := by
  unfold primaryKeyVerdict
  rw [find?_primary_essence]
  cases plan.indexes.find? fun index => index.kind = .primary <;> rfl

theorem autoincrementVerdict_essence :
    autoincrementVerdict dialect (plan.essence dialect) = autoincrementVerdict dialect plan := by
  have counting : (plan.essence dialect).columns.filter Column.autoIncrement =
      (plan.columns.filter Column.autoIncrement).map (Column.essence dialect) := List.filter_map
  unfold autoincrementVerdict
  rw [primaryKey?_essence, counting]
  cases dialect with
  | postgres | mysql => rfl
  | sqlite =>
    cases plan.columns.filter Column.autoIncrement with
    | nil => rfl
    | cons column others => cases others <;> rfl

theorem primaryKeyElementsOutput_essence :
    primaryKeyElementsOutput dialect (plan.essence dialect) =
      primaryKeyElementsOutput dialect plan := by
  have counting : (plan.essence dialect).columns.any Column.autoIncrement =
      plan.columns.any Column.autoIncrement := List.any_map
  unfold primaryKeyElementsOutput
  rw [primaryKey?_essence, counting]

/-! ### Indexes and foreign keys -/

theorem indexVerdict_essence (index : Index) :
    indexVerdict dialect (plan.essence dialect) (index.essence dialect) =
      indexVerdict dialect plan index := by
  unfold indexVerdict
  rw [creating_essence]
  rfl

theorem declaresKeysInline_essence :
    declaresKeysInline dialect (plan.essence dialect) = declaresKeysInline dialect plan := by
  simp only [declaresKeysInline, ifNotExists_essence]

theorem indexCreation?_essence (index : Index) :
    indexCreation? dialect (plan.essence dialect) (index.essence dialect) =
      indexCreation? dialect plan index := by
  have creation (qualifier : String) :
      indexCreation dialect (plan.essence dialect) (index.essence dialect) qualifier =
        indexCreation dialect plan index qualifier := by
    unfold indexCreation
    rw [ifNotExists_essence]
    cases dialect <;> rfl
  have kind : (index.essence dialect).kind = index.kind := rfl
  have fullText : fullTextIndex? dialect (plan.essence dialect) (index.essence dialect) =
      fullTextIndex? dialect plan index := by
    unfold fullTextIndex? indexCreation
    rw [ifNotExists_essence]
    cases dialect <;> rfl
  unfold indexCreation? uniqueIndex plainIndex
  rw [creation, creation, fullText, kind]

theorem indexOutput_essence (index : Index) :
    indexOutput dialect (plan.essence dialect) (index.essence dialect) =
      indexOutput dialect plan index := by
  unfold indexOutput
  rw [creating_essence, declaresKeysInline_essence, indexCreation?_essence]
  rfl

theorem separateIndexes_essence :
    separateIndexes dialect (plan.essence dialect) =
      (separateIndexes dialect plan).map (Index.essence dialect) := by
  have flaggedColumns : flaggedColumns (plan.essence dialect) =
      (flaggedColumns plan).map (Column.essence dialect) := by
    unfold flaggedColumns
    rw [creating_essence, addedColumns_essence]
    cases plan.creating <;> rfl
  have flagged (column : Column) : (flaggedIndexes dialect column).map (Index.essence dialect) =
      flaggedIndexes dialect column := by
    have bare (kind : IndexKind) : (flaggedIndex dialect column kind).essence dialect =
        flaggedIndex dialect column kind := by
      cases dialect <;> rfl
    unfold flaggedIndexes only
    cases isSeparateFlag dialect column .unique <;> cases isSeparateFlag dialect column .index <;>
      simp [bare]
  unfold separateIndexes
  rw [flaggedColumns, List.map_append, List.map_flatMap, List.flatMap_map]
  simp only [flagged]
  rfl

theorem declaresForeignKeyInline_essence (key : ForeignKey) :
    declaresForeignKeyInline dialect (plan.essence dialect) key =
      declaresForeignKeyInline dialect plan key := by
  cases dialect with
  | postgres | mysql => exact ifNotExists_essence _ plan
  | sqlite =>
    unfold declaresForeignKeyInline
    rw [creating_essence, addedColumns_essence, List.any_map]
    rfl

theorem definitionsVerdict_essence :
    definitionsVerdict dialect (plan.essence dialect) = definitionsVerdict dialect plan := by
  have foreign : foreignKeyVerdict dialect (plan.essence dialect) =
      foreignKeyVerdict dialect plan := by
    funext key
    unfold foreignKeyVerdict
    rw [declaresForeignKeyInline_essence]
    rfl
  unfold definitionsVerdict
  rw [separateIndexes_essence, forM_map]
  simp only [indexVerdict_essence, foreign]
  rfl

theorem definitionsOutput_essence :
    definitionsOutput dialect (plan.essence dialect) = definitionsOutput dialect plan := by
  have foreign : foreignKeyOutput dialect (plan.essence dialect) =
      foreignKeyOutput dialect plan := by
    funext key
    unfold foreignKeyOutput
    rw [declaresForeignKeyInline_essence]
    rfl
  unfold definitionsOutput
  rw [separateIndexes_essence, List.filterMap_map]
  simp only [Function.comp_def, indexOutput_essence, foreign]
  rfl

/-! ### Tables -/

theorem inlineKeysVerdict_essence :
    inlineKeysVerdict dialect (plan.essence dialect) = inlineKeysVerdict dialect plan := by
  cases dialect with
  | mysql => rw [Plan.essence_mysql]
  | postgres | sqlite => rfl

theorem inlineKeysOutput_essence :
    inlineKeysOutput dialect (plan.essence dialect) = inlineKeysOutput dialect plan := by
  cases dialect with
  | mysql => rw [Plan.essence_mysql]
  | postgres | sqlite => rfl

theorem constrainsInline_essence :
    constrainsInline dialect (plan.essence dialect) = constrainsInline dialect plan := by
  simp only [constrainsInline, ifNotExists_essence]

theorem tableConstraintsVerdict_essence :
    tableConstraintsVerdict dialect (plan.essence dialect) =
      tableConstraintsVerdict dialect plan := by
  unfold tableConstraintsVerdict inlineForeignKeysVerdict
  rw [primaryKeyVerdict_essence, autoincrementVerdict_essence, inlineKeysVerdict_essence,
    constrainsInline_essence]
  rfl

theorem tableConstraintsOutput_essence :
    tableConstraintsOutput dialect (plan.essence dialect) =
      tableConstraintsOutput dialect plan := by
  unfold tableConstraintsOutput inlineForeignKeysOutput
  rw [primaryKeyElementsOutput_essence, inlineKeysOutput_essence, constrainsInline_essence]
  rfl

theorem createTableVerdict_essence :
    createTableVerdict dialect (plan.essence dialect) = createTableVerdict dialect plan := by
  unfold createTableVerdict
  rw [checkColumns_essence, tableConstraintsVerdict_essence]
  rfl

theorem createTableOutput_essence (ifNotExists : Bool) :
    createTableOutput dialect (plan.essence dialect) ifNotExists =
      createTableOutput dialect plan ifNotExists := by
  have options : tableOptions dialect (plan.essence dialect) = tableOptions dialect plan := by
    cases dialect <;> rfl
  have columns : (plan.essence dialect).columns = plan.columns.map (Column.essence dialect) := rfl
  unfold createTableOutput
  rw [tableConstraintsOutput_essence, options, columns, columnComments_essence, List.map_map]
  simp only [Function.comp_def, columnDefinition_essence]
  rfl

theorem addColumnsVerdict_essence :
    addColumnsVerdict dialect (plan.essence dialect) = addColumnsVerdict dialect plan := by
  unfold addColumnsVerdict
  rw [checkColumns_essence, addedPrimaryKey?_essence]
  rfl

theorem addColumnsOutput_essence :
    addColumnsOutput dialect (plan.essence dialect) = addColumnsOutput dialect plan := by
  have additions : columnAdditions dialect (plan.essence dialect) = columnAdditions dialect plan := by
    unfold columnAdditions
    rw [addedColumns_essence, List.map_map]
    simp only [Function.comp_def, columnDefinition_essence]
  unfold addColumnsOutput
  rw [additions, addedPrimaryKey?_essence, addedColumns_essence, List.isEmpty_map,
    columnComments_essence]
  rfl

theorem changeColumnsVerdict_essence :
    changeColumnsVerdict dialect (plan.essence dialect) = changeColumnsVerdict dialect plan := by
  unfold changeColumnsVerdict
  rw [checkColumns_essence, changedColumns_essence, List.isEmpty_map]
  rfl

theorem changeColumnsOutput_essence :
    changeColumnsOutput dialect (plan.essence dialect) = changeColumnsOutput dialect plan := by
  cases dialect with
  | sqlite => rfl
  | postgres =>
    unfold changeColumnsOutput
    rw [changedColumns_essence, columnComments_essence, List.map_map]
    rfl
  | mysql =>
    rw [changeColumnsOutput_mysql, changeColumnsOutput_mysql, changedColumns_essence,
      List.isEmpty_map, List.map_map]
    simp only [Function.comp_def, columnDefinition_essence]
    rfl

theorem tableCommentOutput_essence :
    tableCommentOutput dialect (plan.essence dialect) = tableCommentOutput dialect plan := by
  unfold tableCommentOutput
  rw [creating_essence]
  cases dialect <;> rfl

/-! ### Commands -/

theorem commandVerdict_essence (asked : Command) :
    commandVerdict dialect (plan.essence dialect) asked = commandVerdict dialect plan asked := by
  cases asked with
  | create | createIfNotExists =>
    simp only [commandVerdict, createTableVerdict_essence, definitionsVerdict_essence]
  | add => simp only [commandVerdict, addColumnsVerdict_essence, definitionsVerdict_essence]
  | change => exact changeColumnsVerdict_essence dialect plan
  | _ => rfl

theorem commandOutput_essence (asked : Command) :
    commandOutput dialect (plan.essence dialect) asked = commandOutput dialect plan asked := by
  cases asked with
  | create | createIfNotExists =>
    simp only [commandOutput, createTableOutput_essence, definitionsOutput_essence]
  | add => simp only [commandOutput, addColumnsOutput_essence, definitionsOutput_essence]
  | change => exact changeColumnsOutput_essence dialect plan
  | comment => exact tableCommentOutput_essence dialect plan
  | _ => rfl

end

end Compile

namespace Plan

open Compile

section
variable (dialect : Dialect) (plan : Plan)

theorem lead_filter {needed : Bool} {command : Command} (read : command.isRead dialect = true)
    (commands : List Command) :
    lead needed command (commands.filter (Command.isRead dialect)) =
      (lead needed command commands).filter (Command.isRead dialect) := by
  have known : (commands.filter (Command.isRead dialect)).contains command =
      commands.contains command := by
    simp [read]
  unfold lead
  rw [known]
  split
  · rw [List.filter_cons_of_pos read]
  · rfl

theorem commands_essence :
    (plan.essence dialect).commands = plan.commands.filter (Command.isRead dialect) := by
  have additions : (plan.essence dialect).hasAdditions = plan.hasAdditions := by
    unfold hasAdditions
    rw [addedColumns_essence, List.isEmpty_map]
    simp only [essence, List.isEmpty_map]
  have requested : (plan.essence dialect).requested =
      plan.requested.filter (Command.isRead dialect) := rfl
  unfold commands
  rw [creating_essence, changedColumns_essence, List.isEmpty_map, additions, requested,
    lead_filter dialect rfl, lead_filter dialect rfl]
  split <;> rfl

/-- A command that a dialect does not carry out is a comment in sqlite. -/
theorem eq_comment_of_unread {asked : Command} (unread : asked.isRead dialect = false) :
    dialect = .sqlite ∧ asked = .comment := by
  cases asked with
  | comment => simpa [Command.isRead] using unread
  | _ => cases unread

theorem verdict_essence : (plan.essence dialect).verdict dialect = plan.verdict dialect := by
  unfold verdict
  rw [commands_essence, forM_congr fun asked _ => commandVerdict_essence dialect plan asked]
  refine forM_filter ?_ plan.commands
  intro asked unread
  obtain ⟨rfl, rfl⟩ := eq_comment_of_unread dialect unread
  rfl

theorem output_essence : (plan.essence dialect).output dialect = plan.output dialect := by
  have silent (commands : List Command) :
      (commands.filter (Command.isRead dialect)).flatMap (commandOutput dialect plan) =
        commands.flatMap (commandOutput dialect plan) := by
    induction commands with
    | nil => rfl
    | cons asked rest ih =>
      cases read : asked.isRead dialect with
      | true => rw [List.filter_cons_of_pos read, List.flatMap_cons, List.flatMap_cons, ih]
      | false =>
        -- Only the comment in sqlite is left out, and it gives out nothing.
        obtain ⟨rfl, rfl⟩ := eq_comment_of_unread dialect read
        rw [List.filter_cons_of_neg (by simp [read]), List.flatMap_cons, ih]
        rfl
  have same : commandOutput dialect (plan.essence dialect) = commandOutput dialect plan :=
    funext (commandOutput_essence dialect plan)
  unfold output
  rw [same, commands_essence, silent]

/-- A dialect makes of a plan what it makes of the essence of the plan. -/
theorem toSql_essence : (plan.essence dialect).toSql dialect = plan.toSql dialect := by
  calc (plan.essence dialect).toSql dialect
      = ((plan.essence dialect).verdict dialect).map fun _ =>
          ((plan.essence dialect).output dialect).map (Sql.Statement.text dialect) :=
        toSql_splits dialect _
    _ = (plan.verdict dialect).map fun _ =>
          (plan.output dialect).map (Sql.Statement.text dialect) := by
        rw [verdict_essence, output_essence]
    _ = plan.toSql dialect := (toSql_splits dialect plan).symm

end

/-! ## What leaves the essence as it is -/

theorem filter_filter_of_imp {α : Type} {read kept : α → Bool}
    (kept_of_read : ∀ a, read a = true → kept a = true) (list : List α) :
    (list.filter kept).filter read = list.filter read := by
  rw [List.filter_filter]
  refine List.filter_congr fun a _ => ?_
  cases reads : read a with
  | true => rw [kept_of_read a reads, Bool.and_true]
  | false => rfl

theorem essence?_withoutHints {dialect : Dialect} (other : dialect ≠ .mysql) (step : Step) :
    step.withoutHints?.bind (Step.essence? dialect) = step.essence? dialect := by
  cases step with
  | engine | charset | collation => simp [Step.withoutHints?, Step.essence?, other]
  | column name type modifiers =>
    have kept : ∀ modifier : ColumnModifier, modifier.isRead dialect = true →
        decide (modifier ≠ .unsigned) = true := by
      intro modifier read
      cases modifier with
      | unsigned => exact absurd (by simpa [ColumnModifier.isRead] using read) other
      | _ => rfl
    simp only [Step.withoutHints?, Step.essence?, Option.bind_some, filter_filter_of_imp kept]
  | _ => rfl

theorem essence?_withoutNotes (step : Step) :
    step.withoutNotes?.bind (Step.essence? .sqlite) = step.essence? .sqlite := by
  cases step with
  | column name type modifiers =>
    have kept : ∀ modifier : ColumnModifier, modifier.isRead .sqlite = true →
        (!modifier.isComment) = true := by
      intro modifier read
      cases modifier with
      | comment => cases read
      | _ => rfl
    simp only [Step.withoutNotes?, Step.essence?, Option.bind_some, filter_filter_of_imp kept]
  | index kind columns modifiers =>
    have kept : ∀ modifier : IndexModifier, modifier.isRead .sqlite = true →
        (!modifier.isMethod) = true := by
      intro modifier read
      cases modifier with
      | named => rfl
      | _ => cases read
    simp only [Step.withoutNotes?, Step.essence?, Option.bind_some, filter_filter_of_imp kept]
  | _ => rfl

theorem essence?_unsized (step : Step) : step.unsized.essence? .sqlite = step.essence? .sqlite := by
  cases step with
  | column name type modifiers =>
    have kept : ∀ modifier : ColumnModifier, modifier.isRead .sqlite = true →
        (!modifier.isPrecision) = true := by
      intro modifier read
      cases modifier with
      | precision => cases read
      | _ => rfl
    simp only [Step.unsized, Step.essence?, ColumnType.essence, if_pos, ColumnType.unsized_unsized,
      filter_filter_of_imp kept]
  | _ => rfl

section
variable (table : String)

/-- Two sequences of steps of which a dialect reads the same compile to the same. -/
theorem toSql_eq_of_essence_eq {dialect : Dialect} {first second : List Step}
    (same : first.filterMap (Step.essence? dialect) = second.filterMap (Step.essence? dialect)) :
    (build table first).toSql dialect = (build table second).toSql dialect := by
  rw [← toSql_essence, build_essence, same, ← build_essence, toSql_essence]

/-- In postgres and sqlite the same comes of a plan, be it statements or a fault, when all table
options and all modifiers that forbid negative numbers are deleted.  In sqlite the same comes of it
even when all comments and access methods are deleted besides and the sizes of types are replaced by
any others. -/
theorem unread_parts_unseen (steps : List Step) :
    (∀ dialect, dialect ≠ .mysql →
      (build table (steps.filterMap Step.withoutHints?)).toSql dialect =
        (build table steps).toSql dialect) ∧
    ∀ others : List Step,
      others.map Step.unsized =
        ((steps.filterMap Step.withoutHints?).filterMap Step.withoutNotes?).map Step.unsized →
      (build table others).toSql .sqlite = (build table steps).toSql .sqlite := by
  have unhinted (dialect : Dialect) (other : dialect ≠ .mysql) :
      (steps.filterMap Step.withoutHints?).filterMap (Step.essence? dialect) =
        steps.filterMap (Step.essence? dialect) := by
    rw [List.filterMap_filterMap]
    simp only [essence?_withoutHints other]
  have unnoted (list : List Step) : (list.filterMap Step.withoutNotes?).filterMap
      (Step.essence? .sqlite) = list.filterMap (Step.essence? .sqlite) := by
    rw [List.filterMap_filterMap]
    simp only [essence?_withoutNotes]
  have unsized (list : List Step) : (list.map Step.unsized).filterMap (Step.essence? .sqlite) =
      list.filterMap (Step.essence? .sqlite) := by
    rw [List.filterMap_map]
    simp only [Function.comp_def, essence?_unsized]
  -- What is deleted or replaced is no part of the essence, so all the sequences have the same one.
  constructor
  · intro dialect other
    exact toSql_eq_of_essence_eq table (unhinted dialect other)
  · intro others resized
    apply toSql_eq_of_essence_eq
    rw [← unsized others, resized, unsized, unnoted, unhinted .sqlite nofun]

end

/-- In postgres the comments and the method are seen, and in sqlite they are not. -/
theorem unread_parts_unseen_people :
    let steps : List Step :=
      [.engine "InnoDB", .create, .comment "staff",
       .column "name" (.string 255) [.comment "in full"],
       .column "seen" (.timestamp (some 3)) [.unsigned, .precision 6],
       .index .index ["name"] [.using .hash]]
    let others : List Step :=
      [.create, .column "name" (.string 40) [], .column "seen" (.timestamp none) [],
       .index .index ["name"] []]
    Dialect.postgres ≠ .mysql ∧
    (build "people" (steps.filterMap Step.withoutHints?)).toSql .postgres =
      (build "people" steps).toSql .postgres ∧
    others.map Step.unsized =
      ((steps.filterMap Step.withoutHints?).filterMap Step.withoutNotes?).map Step.unsized ∧
    (build "people" others).toSql .sqlite = (build "people" steps).toSql .sqlite ∧
    (build "people" others).toSql .postgres ≠ (build "people" steps).toSql .postgres := by
  intro steps others
  have other : Dialect.postgres ≠ .mysql := nofun
  have resized : others.map Step.unsized =
      ((steps.filterMap Step.withoutHints?).filterMap Step.withoutNotes?).map Step.unsized := by
    decide +kernel
  obtain ⟨unhinted, unnoted⟩ := unread_parts_unseen "people" steps
  exact ⟨other, unhinted .postgres other, resized, unnoted others resized, by decide +kernel⟩

end Plan

end TablePlan

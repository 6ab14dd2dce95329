import Mathlib.Data.List.Basic
import TablePlan.Compile

/-!
# Verdicts and outputs

Every stage of the compilation refuses a plan or gives something out.  What it gives out never
depends on the checks before it, so each stage splits into a verdict, which is a check and nothing
else, and an output, which is a plain function of the plan.  Main statement: a plan compiles
exactly when each of its commands passes, and its statements are then the outputs of its commands
in order (`statements_splits`).
-/

namespace TablePlan.Compile

open Sql (Statement TableElement)

/-- A stage that passes a verdict and then gives something out. -/
def Splits {α : Type} (stage : Except CompileError α) (verdict : Except CompileError Unit)
    (output : α) : Prop :=
  stage = verdict.map fun _ => output

namespace Splits

variable {α β : Type}

theorem pure (output : α) : Splits (.ok output) (.ok ()) output := rfl

theorem refused (fault : CompileError) (output : α) :
    Splits (.error fault) (.error fault) output := rfl

theorem check (verdict : Except CompileError Unit) : Splits verdict verdict () := by
  cases verdict <;> rfl

/-- A stage after a stage: the second sees only what the first gives out. -/
theorem bind {stage : Except CompileError α} {next : α → Except CompileError β}
    {first second : Except CompileError Unit} {a : α} {b : β}
    (split : Splits stage first a) (splitNext : Splits (next a) second b) :
    Splits (stage >>= next) (first >>= fun _ => second) b := by
  unfold Splits at *
  subst split
  cases first with
  | error fault => rfl
  | ok u => exact splitNext

/-- A check in front of a stage. -/
theorem after {stage : Unit → Except CompileError β} {second : Except CompileError Unit} {b : β}
    (first : Except CompileError Unit) (split : Splits (stage ()) second b) :
    Splits (first >>= stage) (first >>= fun _ => second) b :=
  bind (check first) split

theorem ite {condition : Prop} [Decidable condition] {whenTrue whenFalse : Except CompileError α}
    {verdictTrue verdictFalse : Except CompileError Unit} {a b : α}
    (splitTrue : Splits whenTrue verdictTrue a) (splitFalse : Splits whenFalse verdictFalse b) :
    Splits (if condition then whenTrue else whenFalse)
      (if condition then verdictTrue else verdictFalse) (if condition then a else b) := by
  split
  · exact splitTrue
  · exact splitFalse

/-- What is done with an output after the verdict does not change the verdict. -/
theorem followed {stage : Except CompileError α} {verdict : Except CompileError Unit} {a : α}
    (split : Splits stage verdict a) (f : α → β) :
    Splits (stage >>= fun a => .ok (f a)) verdict (f a) := by
  unfold Splits at *
  subst split
  cases verdict <;> rfl

/-- A list of stages passes the verdicts in order, up to the first refusal. -/
theorem mapM {stage : α → Except CompileError β} {verdict : α → Except CompileError Unit}
    {output : α → β} (each : ∀ a, Splits (stage a) (verdict a) (output a)) (list : List α) :
    Splits (list.mapM stage) (list.forM verdict) (list.map output) := by
  induction list with
  | nil => rfl
  | cons a rest ih =>
    rw [List.mapM_cons]
    exact bind (each a) (followed ih _)

theorem eq_ok_iff {stage : Except CompileError α} {verdict : Except CompileError Unit} {output : α}
    (split : Splits stage verdict output) {a : α} :
    stage = .ok a ↔ verdict = .ok () ∧ a = output := by
  unfold Splits at split
  subst split
  cases verdict with
  | error fault => simp [Except.map]
  | ok u => simp [Except.map, eq_comm]

theorem eq_error_iff {stage : Except CompileError α} {verdict : Except CompileError Unit}
    {output : α} (split : Splits stage verdict output) {fault : CompileError} :
    stage = .error fault ↔ verdict = .error fault := by
  unfold Splits at split
  subst split
  cases verdict <;> simp [Except.map]

end Splits

/-- A check after a check passes exactly when both do. -/
theorem bind_eq_ok_iff {first second : Except CompileError Unit} :
    (first >>= fun _ => second) = .ok () ↔ first = .ok () ∧ second = .ok () := by
  cases first <;> simp [bind, Except.bind]

/-- The checks of a list pass exactly when each does. -/
theorem forM_eq_ok_iff {α : Type} {verdict : α → Except CompileError Unit} {list : List α} :
    list.forM verdict = .ok () ↔ ∀ a ∈ list, verdict a = .ok () := by
  induction list with
  | nil => exact ⟨nofun, fun _ => rfl⟩
  | cons a rest ih =>
    rw [List.forall_mem_cons, ← ih]
    exact bind_eq_ok_iff

theorem forM_append {α : Type} (verdict : α → Except CompileError Unit) (first second : List α) :
    (first ++ second).forM verdict = first.forM verdict >>= fun _ => second.forM verdict :=
  List.forM_append

theorem forM_map {α β : Type} (verdict : β → Except CompileError Unit) (part : α → β)
    (list : List α) : (list.map part).forM verdict = list.forM fun a => verdict (part a) :=
  List.forM_map

theorem forM_flatMap {α β : Type} (verdict : β → Except CompileError Unit) (parts : α → List β)
    (list : List α) :
    (list.flatMap parts).forM verdict = list.forM fun a => (parts a).forM verdict := by
  induction list with
  | nil => rfl
  | cons a rest ih =>
    rw [List.flatMap_cons, forM_append, ih]
    rfl

theorem mem_only {α : Type} {wanted : Bool} {a b : α} : b ∈ only wanted a ↔ wanted = true ∧ b = a := by
  cases wanted <;> simp [only]

theorem forM_only {α : Type} (verdict : α → Except CompileError Unit) (wanted : Bool) (a : α) :
    (only wanted a).forM verdict = if wanted then verdict a else .ok () := by
  cases wanted with
  | false => rfl
  | true =>
    show (verdict a >>= fun _ => .ok ()) = verdict a
    cases verdict a <;> rfl

/-- Checks that agree on the members of a list agree on the list. -/
theorem forM_congr {α : Type} {first second : α → Except CompileError Unit} {list : List α}
    (agree : ∀ a ∈ list, first a = second a) : list.forM first = list.forM second := by
  induction list with
  | nil => rfl
  | cons a rest ih =>
    show (first a >>= fun _ => rest.forM first) = (second a >>= fun _ => rest.forM second)
    rw [agree a List.mem_cons_self, ih fun b member => agree b (List.mem_cons_of_mem a member)]

/-- Members that pass their checks may be left out. -/
theorem forM_filter {α : Type} {verdict : α → Except CompileError Unit} {kept : α → Bool}
    (passes : ∀ a, kept a = false → verdict a = .ok ()) (list : List α) :
    (list.filter kept).forM verdict = list.forM verdict := by
  induction list with
  | nil => rfl
  | cons a rest ih =>
    cases keeps : kept a with
    | true =>
      rw [List.filter_cons_of_pos keeps]
      exact congrArg (verdict a >>= fun _ => ·) ih
    | false =>
      have skipped : (a :: rest).forM verdict = rest.forM verdict := by
        show (verdict a >>= fun _ => rest.forM verdict) = _
        rw [passes a keeps]
        rfl
      rw [List.filter_cons_of_neg (by simp [keeps]), ih, skipped]

/-- What stands behind a check counts only when the check passes. -/
theorem bind_congr_of_ok {first second third : Except CompileError Unit}
    (agree : first = .ok () → second = third) :
    (first >>= fun _ => second) = (first >>= fun _ => third) := by
  cases first with
  | error fault => rfl
  | ok u => exact agree rfl

/-! ## Indexes and foreign keys -/

section
variable (dialect : Dialect) (plan : Plan)

/-- The statement that creates an index which is no primary key. -/
def indexCreation? (index : Index) : Option Statement :=
  match index.kind with
  | .unique => some (uniqueIndex dialect plan index)
  | .fullText => fullTextIndex? dialect plan index
  | _ => some (plainIndex dialect plan index)

/-- The statement that adds a primary key to an existing table. -/
def primaryKeyAddition (index : Index) : Statement :=
  .alterTable (tablePath plan) [.addConstraint
    (primaryKeyConstraint dialect { name := plan.indexName index, columns := index.columns })]

def indexVerdict (index : Index) : Except CompileError Unit := do
  checkTable plan
  checkIndex plan index
  refuseIf (index.kind = .primary && !plan.creating && dialect = .sqlite)
    (.unsupported .sqlite .addPrimaryKey)

def indexOutput (index : Index) : Option Statement :=
  if index.kind = .primary then
    if plan.creating || dialect = .sqlite then none else some (primaryKeyAddition dialect plan index)
  else if declaresKeysInline dialect plan then none
  else indexCreation? dialect plan index

theorem indexStatement?_splits (index : Index) :
    Splits (indexStatement? dialect plan index) (indexVerdict dialect plan index)
      (indexOutput dialect plan index) := by
  refine .after _ (.after _ ?_)
  by_cases primary : index.kind = .primary
  · cases creating : plan.creating with
    | true => simp [primary, creating, addPrimaryKey?, indexOutput, refuseIf, Splits, Except.map]
    | false =>
      cases dialect <;>
        simp [primary, creating, addPrimaryKey?, indexOutput, primaryKeyAddition, refuseIf, Splits,
          Except.map]
  · cases keys : declaresKeysInline dialect plan <;> cases kind : index.kind <;>
      simp_all [indexOutput, indexCreation?, refuseIf, Splits, Except.map, Pure.pure, Except.pure]

/-- Whether a column asks for an index by a flag. -/
def asksFor (column : Column) : IndexKind → Bool
  | .unique => column.unique
  | .index => column.index
  | _ => false

/-- Whether the index that a flag asks for is an index of its own: in mysql a unique one without a
name is part of the column definition. -/
def isSeparateFlag (column : Column) (kind : IndexKind) : Bool :=
  asksFor column kind && !(dialect = .mysql && kind = .unique && column.uniqueName.isNone)

/-- The indexes of their own that the flags of a column ask for, unique before plain. -/
def flaggedIndexes (column : Column) : List Index :=
  only (isSeparateFlag dialect column .unique) (flaggedIndex dialect column .unique) ++
    only (isSeparateFlag dialect column .index) (flaggedIndex dialect column .index)

private theorem flag_splits (column : Column) (kind : IndexKind) :
    Splits (if asksFor column kind then columnIndexStatement? dialect plan column kind else .ok none)
      (if isSeparateFlag dialect column kind then
        indexVerdict dialect plan (flaggedIndex dialect column kind) else .ok ())
      (if isSeparateFlag dialect column kind then
        indexOutput dialect plan (flaggedIndex dialect column kind) else none) := by
  unfold columnIndexStatement? isSeparateFlag
  by_cases asked : asksFor column kind = true
  · by_cases inline :
      (dialect = .mysql && kind = .unique && column.uniqueName.isNone : Bool) = true
    · simp only [asked, inline, if_pos, Bool.not_true, Bool.and_false]
      exact .pure none
    · simp only [asked, inline, if_pos, Bool.not_false, Bool.and_true]
      exact indexStatement?_splits dialect plan _
  · simp only [asked, Bool.false_and]
    exact .pure none

theorem columnIndexStatements_splits (column : Column) :
    Splits (columnIndexStatements dialect plan column)
      ((flaggedIndexes dialect column).forM (indexVerdict dialect plan))
      ((flaggedIndexes dialect column).filterMap (indexOutput dialect plan)) := by
  have inOrder : columnIndexStatements dialect plan column =
      (if asksFor column .unique then columnIndexStatement? dialect plan column .unique
        else .ok none) >>= fun unique =>
      (if asksFor column .index then columnIndexStatement? dialect plan column .index
        else .ok none) >>= fun plain =>
      .ok (unique.toList ++ plain.toList) := by
    unfold columnIndexStatements asksFor
    cases column.unique <;> cases column.index <;> rfl
  have verdicts : (flaggedIndexes dialect column).forM (indexVerdict dialect plan) =
      (if isSeparateFlag dialect column .unique then
        indexVerdict dialect plan (flaggedIndex dialect column .unique) else .ok ()) >>= fun _ =>
      (if isSeparateFlag dialect column .index then
        indexVerdict dialect plan (flaggedIndex dialect column .index) else .ok ()) := by
    rw [flaggedIndexes, forM_append, forM_only, forM_only]
  have outputs : (flaggedIndexes dialect column).filterMap (indexOutput dialect plan) =
      (if isSeparateFlag dialect column .unique then
        indexOutput dialect plan (flaggedIndex dialect column .unique) else none).toList ++
      (if isSeparateFlag dialect column .index then
        indexOutput dialect plan (flaggedIndex dialect column .index) else none).toList := by
    unfold flaggedIndexes only
    cases isSeparateFlag dialect column .unique <;> cases isSeparateFlag dialect column .index <;>
      simp [List.filterMap_eq_flatMap_toList]
  rw [inOrder, verdicts, outputs]
  refine .bind (flag_splits dialect plan column .unique) ?_
  exact .followed (flag_splits dialect plan column .index) _

def foreignKeyVerdict (key : ForeignKey) : Except CompileError Unit := do
  checkTable plan
  checkForeignKey plan key
  refuseIf (dialect = .sqlite && !declaresForeignKeyInline dialect plan key)
    (.unsupported .sqlite .addForeignKey)

/-- The statement that adds a foreign key to an existing table. -/
def foreignKeyAddition (key : ForeignKey) : Statement :=
  .alterTable (tablePath plan) [.addConstraint (foreignKeyConstraint plan key)]

def foreignKeyOutput (key : ForeignKey) : Option Statement :=
  if declaresForeignKeyInline dialect plan key || dialect = .sqlite then none
  else some (foreignKeyAddition plan key)

theorem foreignKeyStatement?_splits (key : ForeignKey) :
    Splits (foreignKeyStatement? dialect plan key) (foreignKeyVerdict dialect plan key)
      (foreignKeyOutput dialect plan key) := by
  refine .after _ (.after _ ?_)
  cases inline : declaresForeignKeyInline dialect plan key <;> cases dialect <;>
    simp [inline, foreignKeyOutput, foreignKeyAddition, refuseIf, Splits, Except.map, Pure.pure,
      Except.pure]

/-- The columns whose flags count: all of a new table, the new ones of an existing table. -/
def flaggedColumns : List Column :=
  if plan.creating then plan.columns else plan.addedColumns

/-- The indexes of their own that go with a creation or an addition, in order. -/
def separateIndexes : List Index :=
  (flaggedColumns plan).flatMap (flaggedIndexes dialect) ++ plan.indexes

def definitionsVerdict : Except CompileError Unit := do
  (separateIndexes dialect plan).forM (indexVerdict dialect plan)
  plan.foreignKeys.forM (foreignKeyVerdict dialect plan)

def definitionsOutput : List Statement :=
  (separateIndexes dialect plan).filterMap (indexOutput dialect plan) ++
    plan.foreignKeys.filterMap (foreignKeyOutput dialect plan)

theorem definitions_splits :
    Splits (definitions dialect plan) (definitionsVerdict dialect plan)
      (definitionsOutput dialect plan) := by
  have verdict : definitionsVerdict dialect plan =
      ((flaggedColumns plan).forM fun column =>
        (flaggedIndexes dialect column).forM (indexVerdict dialect plan)) >>= fun _ =>
      plan.indexes.forM (indexVerdict dialect plan) >>= fun _ =>
      plan.foreignKeys.forM (foreignKeyVerdict dialect plan) := by
    unfold definitionsVerdict separateIndexes
    rw [forM_append, forM_flatMap, bind_assoc]
  have output : definitionsOutput dialect plan =
      ((flaggedColumns plan).map fun column =>
        (flaggedIndexes dialect column).filterMap (indexOutput dialect plan)).flatten ++
        (plan.indexes.map (indexOutput dialect plan)).flatMap Option.toList ++
        (plan.foreignKeys.map (foreignKeyOutput dialect plan)).flatMap Option.toList := by
    simp only [definitionsOutput, separateIndexes, List.filterMap_append, List.filterMap_flatMap,
      ← List.flatMap_def, List.flatMap_map, ← List.filterMap_eq_flatMap_toList]
  rw [verdict, output]
  refine .bind (.mapM (columnIndexStatements_splits dialect plan) _) ?_
  refine .bind (.mapM (indexStatement?_splits dialect plan) _) ?_
  exact .followed (.mapM (foreignKeyStatement?_splits dialect plan) _) _

/-! ## Creation -/

/-- The primary key of a table that is created. -/
def primaryKey? : Option PrimaryKey :=
  match plan.indexes.find? fun index => index.kind = .primary with
  | none => flaggedPrimaryKey? plan plan.columns
  | some index => some { name := plan.indexName index, columns := index.columns }

def primaryKeyVerdict : Except CompileError Unit :=
  match plan.indexes.find? fun index => index.kind = .primary with
  | none => .ok ()
  | some index => checkIndex plan index

theorem primaryKey_splits : Splits (primaryKey plan) (primaryKeyVerdict plan) (primaryKey? plan) := by
  unfold primaryKey primaryKeyVerdict primaryKey?
  cases plan.indexes.find? fun index => index.kind = .primary with
  | none => exact .pure _
  | some index => exact .followed (.check _) _

/-- What an autoincrementing column asks of the primary key in sqlite. -/
def autoincrementVerdict : Except CompileError Unit :=
  match dialect, plan.columns.filter Column.autoIncrement with
  | .sqlite, [column] =>
    refuseIf ((primaryKey? plan).any fun key => key.columns != [column.name])
      (.unsupported .sqlite .primaryKeyBesideAutoincrement)
  | .sqlite, _ :: _ :: _ => .error (.unsupported .sqlite .severalAutoincrements)
  | _, _ => .ok ()

def primaryKeyElementsOutput : List TableElement :=
  if dialect = .sqlite && plan.columns.any Column.autoIncrement then []
  else (primaryKey? plan).toList.map fun key => .constraint
    (.primaryKey (if dialect = .postgres then some key.name else none) key.columns)

theorem primaryKeyElements_splits :
    Splits (primaryKeyElements dialect plan)
      (primaryKeyVerdict plan >>= fun _ => autoincrementVerdict dialect plan)
      (primaryKeyElementsOutput dialect plan) := by
  refine .bind (primaryKey_splits plan) ?_
  unfold autoincrementVerdict primaryKeyElementsOutput
  have counted : plan.columns.any Column.autoIncrement =
      !(plan.columns.filter Column.autoIncrement).isEmpty := by
    rw [Bool.eq_iff_iff]
    simp [List.filter_eq_nil_iff]
  rw [counted]
  cases dialect with
  | postgres => exact .pure _
  | mysql => exact .pure _
  | sqlite =>
    cases plan.columns.filter Column.autoIncrement with
    | nil => exact .pure _
    | cons column others =>
      cases others with
      | nil => exact .followed (.check _) _
      | cons => exact .refused _ _

theorem flaggedColumns_of_creating (creating : plan.creating = true) :
    flaggedColumns plan = plan.columns := by
  simp [flaggedColumns, creating]

/-- In mysql the keys inside a table are the indexes that would otherwise follow it, without the
primary keys. -/
theorem inlineIndexes_eq_filter (creating : plan.creating = true) :
    inlineIndexes plan =
      (separateIndexes .mysql plan).filter fun index => index.kind != .primary := by
  have flagged (column : Column) :
      (flaggedIndexes .mysql column).filter (fun index => index.kind != .primary) =
        only (column.unique && column.uniqueName.isSome) (flaggedIndex .mysql column .unique) ++
          only column.index (flaggedIndex .mysql column .index) := by
    cases unique : column.unique <;> cases name : column.uniqueName <;> cases plain : column.index <;>
      simp [flaggedIndexes, isSeparateFlag, asksFor, flaggedIndex, only, unique, name, plain]
  unfold inlineIndexes separateIndexes
  rw [flaggedColumns_of_creating plan creating, List.filter_append, List.filter_flatMap]
  simp only [flagged]

def inlineKeysVerdict : Except CompileError Unit :=
  if declaresKeysInline dialect plan then (inlineIndexes plan).forM (checkIndex plan) else .ok ()

/-- An index as a key inside the table. -/
def keyElement (index : Index) : TableElement :=
  .key index.kind (plan.indexName index) index.columns
    (if index.kind = .fullText then none else index.method)

def inlineKeysOutput : List TableElement :=
  if declaresKeysInline dialect plan then (inlineIndexes plan).map (keyElement plan) else []

/-- Whether the foreign keys are constraints inside the creation of the table. -/
def constrainsInline : Bool :=
  dialect = .sqlite || plan.ifNotExists

def inlineForeignKeysVerdict : Except CompileError Unit :=
  if constrainsInline dialect plan then plan.foreignKeys.forM (checkForeignKey plan) else .ok ()

def inlineForeignKeysOutput : List Sql.Constraint :=
  if constrainsInline dialect plan then plan.foreignKeys.map (foreignKeyConstraint plan) else []

def tableConstraintsVerdict : Except CompileError Unit := do
  primaryKeyVerdict plan >>= fun _ => autoincrementVerdict dialect plan
  inlineKeysVerdict dialect plan
  inlineForeignKeysVerdict dialect plan

def tableConstraintsOutput : List TableElement :=
  primaryKeyElementsOutput dialect plan ++ inlineKeysOutput dialect plan ++
    (inlineForeignKeysOutput dialect plan).map .constraint

theorem tableConstraints_splits :
    Splits (tableConstraints dialect plan) (tableConstraintsVerdict dialect plan)
      (tableConstraintsOutput dialect plan) := by
  have inOrder : tableConstraints dialect plan =
      primaryKeyElements dialect plan >>= fun primary =>
      (if declaresKeysInline dialect plan then inlineKeys plan else .ok []) >>= fun keys =>
      (if constrainsInline dialect plan then foreignKeyConstraints plan else .ok []) >>= fun foreign =>
      .ok (primary ++ keys ++ foreign.map .constraint) := by
    unfold tableConstraints constrainsInline
    cases declaresKeysInline dialect plan <;> cases (dialect = .sqlite || plan.ifNotExists : Bool) <;>
      rfl
  rw [inOrder]
  refine .bind (primaryKeyElements_splits dialect plan) ?_
  refine .bind (.ite (.mapM (fun index => .followed (.check _) _) _) (.pure _)) ?_
  exact .followed (.ite (.mapM (fun key => .followed (.check _) _) _) (.pure _)) _

def createTableVerdict : Except CompileError Unit := do
  checkTable plan
  checkColumns plan
  tableConstraintsVerdict dialect plan

def createTableOutput (ifNotExists : Bool) : List Statement :=
  .createTable ifNotExists (tablePath plan)
    (plan.columns.map (fun column => .column (columnDefinition dialect plan column)) ++
      tableConstraintsOutput dialect plan)
    (tableOptions dialect plan) ::
  columnComments dialect plan plan.columns

theorem createTable_splits (ifNotExists : Bool) :
    Splits (createTable dialect plan ifNotExists) (createTableVerdict dialect plan)
      (createTableOutput dialect plan ifNotExists) := by
  refine .after _ (.after _ ?_)
  exact .followed (tableConstraints_splits dialect plan) _

/-! ## Work on an existing table -/

def addColumnsVerdict : Except CompileError Unit := do
  checkTable plan
  checkColumns plan
  refuseIf (dialect = .sqlite && (addedPrimaryKey? plan).isSome) (.unsupported .sqlite .addPrimaryKey)

/-- The actions that add the new columns. -/
def columnAdditions : List Sql.Alteration :=
  plan.addedColumns.map fun column => .addColumn (columnDefinition dialect plan column)

def addColumnsOutput : List Statement :=
  if dialect = .sqlite then
    (columnAdditions dialect plan).map fun addition => .alterTable (tablePath plan) [addition]
  else if plan.addedColumns.isEmpty then []
  else
    .alterTable (tablePath plan) (columnAdditions dialect plan ++
      (addedPrimaryKey? plan).toList.map fun key =>
        .addConstraint (primaryKeyConstraint dialect key)) ::
    columnComments dialect plan plan.addedColumns

theorem addColumns_splits :
    Splits (addColumns dialect plan) (addColumnsVerdict dialect plan)
      (addColumnsOutput dialect plan) := by
  refine .after _ (.after _ ?_)
  cases dialect with
  | sqlite => exact .followed (.check _) _
  | postgres | mysql =>
    simp only [addColumnsOutput, columnAdditions, List.isEmpty_map]
    cases plan.addedColumns.isEmpty <;> exact .pure _

def changeColumnsVerdict : Except CompileError Unit := do
  checkTable plan
  match dialect with
  | .sqlite => refuseIf (!plan.changedColumns.isEmpty) (.unsupported .sqlite .changeColumns)
  | _ => checkColumns plan

def changeColumnsOutput : List Statement :=
  match dialect with
  | .postgres =>
    plan.changedColumns.map (changeColumn plan) ++
      columnComments .postgres plan plan.changedColumns
  | .mysql =>
    if plan.changedColumns.isEmpty then []
    else [.alterTable (tablePath plan) (plan.changedColumns.map fun column =>
      .modifyColumn (columnDefinition .mysql plan column))]
  | .sqlite => []

theorem changeColumnsOutput_mysql : changeColumnsOutput .mysql plan =
    if plan.changedColumns.isEmpty then []
    else [.alterTable (tablePath plan) (plan.changedColumns.map fun column =>
      .modifyColumn (columnDefinition .mysql plan column))] := rfl

theorem changeColumns_splits :
    Splits (changeColumns dialect plan) (changeColumnsVerdict dialect plan)
      (changeColumnsOutput dialect plan) := by
  refine .after _ ?_
  cases dialect with
  | postgres => exact .followed (.check _) _
  | sqlite => exact .followed (.check _) _
  | mysql =>
    rw [changeColumnsOutput_mysql]
    cases plan.changedColumns.isEmpty <;> exact .followed (.check _) _

def dropColumnsVerdict : Except CompileError Unit := do
  checkTable plan
  checkColumnNames plan plan.dropColumns

def dropColumnsOutput : List Statement :=
  match dialect with
  | .sqlite => plan.dropColumns.map fun name => .alterTable (tablePath plan) [.dropColumn name]
  | _ => [.alterTable (tablePath plan) (plan.dropColumns.map .dropColumn)]

theorem dropColumns_splits :
    Splits (dropColumns dialect plan) (dropColumnsVerdict plan) (dropColumnsOutput dialect plan) := by
  refine .after _ ?_
  cases dialect <;> exact .followed (.check _) _

def renameColumnsVerdict : Except CompileError Unit := do
  checkTable plan
  checkColumnNames plan (plan.renameColumns.flatMap fun (old, new) => [old, new])

def renameColumnsOutput : List Statement :=
  plan.renameColumns.map fun (old, new) => .alterTable (tablePath plan) [.renameColumn old new]

theorem renameColumns_splits :
    Splits (renameColumns plan) (renameColumnsVerdict plan) (renameColumnsOutput plan) :=
  .after _ (.followed (.check _) _)

theorem dropTable_splits (ifExists : Bool) :
    Splits (dropTable plan ifExists) (checkTable plan) (.dropTable ifExists (tablePath plan)) :=
  .followed (.check _) _

def renameTableVerdict : Except CompileError Unit := do
  checkTable plan
  refuseIf (plan.newName.all Text.isBlank) (.missingNewName plan.table)

/-- Where the table goes. -/
def renameTableOutput : Statement :=
  let new := plan.newName.getD ""
  match dialect with
  | .mysql => .renameTable (tablePath plan)
      (if Name.isQualified new then Name.segments new else plan.schema?.toList ++ [new])
  | _ => .alterTable (tablePath plan) [.renameTable (Name.unqualified new)]

theorem newName_splits :
    Splits (newName plan) (refuseIf (plan.newName.all Text.isBlank) (.missingNewName plan.table))
      (plan.newName.getD "") := by
  unfold newName
  cases plan.newName with
  | none => exact .refused _ _
  | some name =>
    simp only [refuseIf, Option.all_some, Option.getD_some]
    split
    · exact .refused _ _
    · exact .pure _

theorem renameTable_splits :
    Splits (renameTable dialect plan) (renameTableVerdict plan) (renameTableOutput dialect plan) := by
  refine .after _ ?_
  cases dialect <;> exact .followed (newName_splits plan) _

def dropIndexesVerdict (names : List String) : Except CompileError Unit := do
  checkTable plan
  checkIndexNames plan names

theorem dropIndexes_splits (names : List String) :
    Splits (dropIndexes dialect plan names) (dropIndexesVerdict plan names)
      (names.map (dropIndex dialect plan)) :=
  .after _ (.followed (.check _) _)

def dropFullTextsVerdict : Except CompileError Unit :=
  if dialect = .sqlite then .ok () else dropIndexesVerdict plan plan.dropFullTexts

def dropFullTextsOutput : List Statement :=
  if dialect = .sqlite then [] else plan.dropFullTexts.map (dropIndex dialect plan)

theorem dropFullTexts_splits :
    Splits (dropFullTexts dialect plan) (dropFullTextsVerdict dialect plan)
      (dropFullTextsOutput dialect plan) := by
  cases dialect with
  | sqlite => exact .pure _
  | postgres | mysql => exact dropIndexes_splits _ plan _

/-- The verdict on work that sqlite has no statement for. -/
def alterationVerdict (work : UnsupportedWork) : Except CompileError Unit := do
  checkTable plan
  refuseIf (dialect = .sqlite) (.unsupported .sqlite work)

def dropPrimaryKeyOutput : List Statement :=
  match dialect with
  | .sqlite => []
  | .mysql => plan.dropPrimary.toList.map fun _ => .alterTable (tablePath plan) [.dropPrimaryKey]
  | .postgres =>
    plan.dropPrimary.toList.map fun name => .alterTable (tablePath plan) [.dropConstraint name]

theorem dropPrimaryKey_splits :
    Splits (dropPrimaryKey dialect plan) (alterationVerdict dialect plan .dropPrimaryKey)
      (dropPrimaryKeyOutput dialect plan) := by
  refine .after _ ?_
  cases dialect with
  | sqlite => exact .refused _ _
  | postgres | mysql => exact .pure _

def renameIndexesOutput : List Statement :=
  match dialect with
  | .sqlite => []
  | .mysql =>
    plan.renameIndexes.map fun (old, new) => .alterTable (tablePath plan) [.renameIndex old new]
  | .postgres => plan.renameIndexes.map fun (old, new) => .renameIndex (indexPath plan old) new

theorem renameIndexes_splits :
    Splits (renameIndexes dialect plan) (alterationVerdict dialect plan .renameIndex)
      (renameIndexesOutput dialect plan) := by
  refine .after _ ?_
  cases dialect with
  | sqlite => exact .refused _ _
  | postgres | mysql => exact .pure _

def dropForeignKeysOutput : List Statement :=
  match dialect with
  | .sqlite => []
  | .mysql =>
    plan.dropForeigns.map fun name => .alterTable (tablePath plan) [.dropForeignKey name]
  | .postgres =>
    plan.dropForeigns.map fun name => .alterTable (tablePath plan) [.dropConstraint name]

theorem dropForeignKeys_splits :
    Splits (dropForeignKeys dialect plan) (alterationVerdict dialect plan .dropForeignKey)
      (dropForeignKeysOutput dialect plan) := by
  refine .after _ ?_
  cases dialect with
  | sqlite => exact .refused _ _
  | postgres | mysql => exact .pure _

def tableCommentVerdict : Except CompileError Unit :=
  if dialect = .sqlite then .ok () else checkTable plan

def tableCommentOutput : List Statement :=
  match dialect with
  | .sqlite => []
  | .mysql =>
    if plan.creating then []
    else plan.comment.toList.map fun text => .alterTable (tablePath plan) [.setComment text]
  | .postgres => plan.comment.toList.map (.commentOnTable (tablePath plan))

theorem tableComment_splits :
    Splits (tableComment dialect plan) (tableCommentVerdict dialect plan)
      (tableCommentOutput dialect plan) := by
  cases dialect with
  | sqlite => exact .pure _
  | postgres => exact .followed (.check _) _
  | mysql =>
    unfold tableComment tableCommentOutput
    cases plan.creating <;> exact .followed (.check _) _

/-! ## Commands and plans -/

/-- The verdict on one command. -/
def commandVerdict : Command → Except CompileError Unit
  | .create | .createIfNotExists => do
    createTableVerdict dialect plan
    definitionsVerdict dialect plan
  | .add => do
    addColumnsVerdict dialect plan
    definitionsVerdict dialect plan
  | .change => changeColumnsVerdict dialect plan
  | .drop | .dropIfExists => checkTable plan
  | .rename => renameTableVerdict plan
  | .dropColumn => dropColumnsVerdict plan
  | .renameColumn => renameColumnsVerdict plan
  | .dropIndex => dropIndexesVerdict plan plan.dropIndexes
  | .dropUnique => dropIndexesVerdict plan plan.dropUniques
  | .dropFullText => dropFullTextsVerdict dialect plan
  | .dropPrimary => alterationVerdict dialect plan .dropPrimaryKey
  | .renameIndex => alterationVerdict dialect plan .renameIndex
  | .dropForeign => alterationVerdict dialect plan .dropForeignKey
  | .comment => tableCommentVerdict dialect plan

/-- What one command gives out. -/
def commandOutput : Command → List Statement
  | .create => createTableOutput dialect plan false ++ definitionsOutput dialect plan
  | .createIfNotExists => createTableOutput dialect plan true ++ definitionsOutput dialect plan
  | .add => addColumnsOutput dialect plan ++ definitionsOutput dialect plan
  | .change => changeColumnsOutput dialect plan
  | .drop => [.dropTable false (tablePath plan)]
  | .dropIfExists => [.dropTable true (tablePath plan)]
  | .rename => [renameTableOutput dialect plan]
  | .dropColumn => dropColumnsOutput dialect plan
  | .renameColumn => renameColumnsOutput plan
  | .dropIndex => plan.dropIndexes.map (dropIndex dialect plan)
  | .dropUnique => plan.dropUniques.map (dropIndex dialect plan)
  | .dropFullText => dropFullTextsOutput dialect plan
  | .dropPrimary => dropPrimaryKeyOutput dialect plan
  | .renameIndex => renameIndexesOutput dialect plan
  | .dropForeign => dropForeignKeysOutput dialect plan
  | .comment => tableCommentOutput dialect plan

theorem command_splits (asked : Command) :
    Splits (command dialect plan asked) (commandVerdict dialect plan asked)
      (commandOutput dialect plan asked) := by
  cases asked with
  | create | createIfNotExists =>
    exact .bind (createTable_splits dialect plan _) (.followed (definitions_splits dialect plan) _)
  | add => exact .bind (addColumns_splits dialect plan) (.followed (definitions_splits dialect plan) _)
  | change => exact changeColumns_splits dialect plan
  | drop | dropIfExists => exact .followed (dropTable_splits plan _) _
  | rename => exact .followed (renameTable_splits dialect plan) _
  | dropColumn => exact dropColumns_splits dialect plan
  | renameColumn => exact renameColumns_splits plan
  | dropIndex | dropUnique => exact dropIndexes_splits dialect plan _
  | dropFullText => exact dropFullTexts_splits dialect plan
  | dropPrimary => exact dropPrimaryKey_splits dialect plan
  | renameIndex => exact renameIndexes_splits dialect plan
  | dropForeign => exact dropForeignKeys_splits dialect plan
  | comment => exact tableComment_splits dialect plan

end

end TablePlan.Compile

namespace TablePlan.Plan

open Compile

/-- The first fault among the commands of a plan. -/
def verdict (dialect : Dialect) (plan : Plan) : Except CompileError Unit :=
  plan.commands.forM (commandVerdict dialect plan)

/-- The statements of the commands of a plan, in order. -/
def output (dialect : Dialect) (plan : Plan) : List Sql.Statement :=
  plan.commands.flatMap (commandOutput dialect plan)

theorem statements_splits (dialect : Dialect) (plan : Plan) :
    Splits (plan.statements dialect) (plan.verdict dialect) (plan.output dialect) := by
  unfold output
  rw [List.flatMap_def]
  exact .followed (.mapM (command_splits dialect plan) _) _

theorem toSql_splits (dialect : Dialect) (plan : Plan) :
    Splits (plan.toSql dialect) (plan.verdict dialect)
      ((plan.output dialect).map (Sql.Statement.text dialect)) :=
  .followed (statements_splits dialect plan) _

/-- A plan that compiles has passed, and its texts are those of its statements. -/
theorem statements_of_toSql {dialect : Dialect} {plan : Plan} {texts : List String}
    (compiled : plan.toSql dialect = .ok texts) :
    plan.verdict dialect = .ok () ∧ plan.statements dialect = .ok (plan.output dialect) ∧
      texts = (plan.output dialect).map (Sql.Statement.text dialect) := by
  obtain ⟨passed, same⟩ := (toSql_splits dialect plan).eq_ok_iff.mp compiled
  exact ⟨passed, (statements_splits dialect plan).eq_ok_iff.mpr ⟨passed, rfl⟩, same⟩

end TablePlan.Plan

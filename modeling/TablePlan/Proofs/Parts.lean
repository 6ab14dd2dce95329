import Mathlib.Data.List.Nodup
import TablePlan.Proofs.CommandList
import TablePlan.Proofs.WellFormed

/-!
# An alteration in parts

Every command has data of its own in a plan, and a plan that holds the data of one command only is a
part of the plan.  Main statement: an alteration that is built and compiles has the statements of its
parts, one part after the other in the order of the commands (`toSql_parts`).
-/

namespace TablePlan

/-! ## Parts -/

/-- The command that a step is for: the one that it asks for, or the change or the addition of what it
states.  An option of the table is for none. -/
def Step.work? : Step → Option Command
  | .column name type modifiers =>
    some (if (Column.declare name type modifiers).change then .change else .add)
  | .index .. | .foreignKey .. => some .add
  | step => step.command?

namespace Plan

/-- The plan for the same table with the data of one command and with no other command. -/
def part (plan : Plan) (asked : Command) : Plan :=
  let bare : Plan := { table := plan.table, requested := plan.requested.filter (· = asked) }
  match asked with
  | .add =>
    { bare with
      columns := plan.addedColumns
      indexes := plan.indexes
      foreignKeys := plan.foreignKeys }
  | .change => { bare with columns := plan.changedColumns }
  | .rename => { bare with newName := plan.newName }
  | .dropColumn => { bare with dropColumns := plan.dropColumns }
  | .renameColumn => { bare with renameColumns := plan.renameColumns }
  | .dropIndex => { bare with dropIndexes := plan.dropIndexes }
  | .dropUnique => { bare with dropUniques := plan.dropUniques }
  | .dropFullText => { bare with dropFullTexts := plan.dropFullTexts }
  | .dropPrimary => { bare with dropPrimary := plan.dropPrimary }
  | .renameIndex => { bare with renameIndexes := plan.renameIndexes }
  | .dropForeign => { bare with dropForeigns := plan.dropForeigns }
  | .comment => { bare with comment := plan.comment }
  | .create | .createIfNotExists | .drop | .dropIfExists => bare

section
variable {plan : Plan}

@[simp] theorem requested_part (asked : Command) :
    (plan.part asked).requested = plan.requested.filter (· = asked) := by
  cases asked <;> rfl

/-! ## Parts are built of the steps for them -/

theorem part_with_requested (requested : List Command) (asked : Command) :
    { plan with requested }.part asked =
      { plan.part asked with requested := requested.filter (· = asked) } := by
  cases asked <;> rfl

/-- Asking for a command is for the part of that command alone. -/
theorem part_request (command asked : Command) :
    (plan.request command).part asked =
      if command = asked then (plan.part asked).request command else plan.part asked := by
  have present_iff : command = asked → (command ∈ (plan.part asked).requested ↔
      command ∈ plan.requested) := by
    rintro rfl
    simp
  by_cases same : command = asked
  · rw [if_pos same]
    by_cases present : command ∈ plan.requested
    · rw [request, if_pos present, request, if_pos ((present_iff same).mpr present)]
    · rw [request, if_neg present, request, if_neg (mt (present_iff same).mp present),
        part_with_requested, List.filter_append, requested_part]
      simp [same]
  · rw [if_neg same, request]
    split
    · rfl
    · have others : (plan.requested ++ [command]).filter (· = asked) =
          plan.requested.filter (· = asked) := by
        simp [same]
      rw [part_with_requested, others]
      exact (part_with_requested plan.requested asked).symm

theorem part_apply (step : Step) (asked : Command) :
    (plan.apply step).part asked =
      if step.work? = some asked then (plan.part asked).apply step else plan.part asked := by
  cases step with
  | engine | charset | collation => cases asked <;> rfl
  | column name type modifiers =>
    cases change : (Column.declare name type modifiers).change <;> cases asked <;>
      simp [Step.work?, apply, part, addedColumns, changedColumns, change]
  | index | foreignKey => cases asked <;> rfl
  | _ =>
    rw [apply, part_request]
    cases asked <;> rfl

end

/-- The part of a command is built of the steps that are for it. -/
theorem part_build (table : String) (steps : List Step) (asked : Command) :
    (build table steps).part asked =
      build table (steps.filter fun step => step.work? = some asked) := by
  have run : ∀ plan : Plan, (steps.foldl apply plan).part asked =
      (steps.filter fun step => step.work? = some asked).foldl apply (plan.part asked) := by
    induction steps with
    | nil => exact fun _ => rfl
    | cons step rest ih =>
      intro plan
      rw [List.foldl_cons, ih, part_apply, List.filter_cons]
      by_cases own : step.work? = some asked
      · rw [if_pos own, if_pos (decide_eq_true own), List.foldl_cons]
      · rw [if_neg own, if_neg (by simpa using own)]
  have start : ({ table } : Plan).part asked = { table } := by cases asked <;> rfl
  rw [build, run, start, build]

/-! ## What a part holds -/

open Compile

section
variable {plan : Plan}

theorem addedColumns_part_add : (plan.part .add).addedColumns = plan.addedColumns := by
  simp [part, addedColumns]

theorem changedColumns_part_add : (plan.part .add).changedColumns = [] := by
  simp [part, addedColumns, changedColumns]

theorem addedColumns_part_change : (plan.part .change).addedColumns = [] := by
  simp [part, addedColumns, changedColumns]

theorem changedColumns_part_change : (plan.part .change).changedColumns = plan.changedColumns := by
  simp [part, changedColumns]

variable (existing : plan.creating = false)
include existing

theorem creating_part (asked : Command) : (plan.part asked).creating = false := by
  rw [creating, List.any_eq_false] at existing ⊢
  intro other listed
  rw [requested_part] at listed
  exact existing other (List.mem_of_mem_filter listed)

theorem ifNotExists_part (asked : Command) : (plan.part asked).ifNotExists = plan.ifNotExists := by
  rw [ifNotExists_eq_false_of_existing existing,
    ifNotExists_eq_false_of_existing (creating_part existing asked)]

/-- The part of a command has that command only. -/
theorem commands_part (order : plan.AsksInOrder) {asked : Command} (listed : asked ∈ plan.commands) :
    (plan.part asked).commands = [asked] := by
  rw [commands, creating_part existing asked, if_neg Bool.false_ne_true, requested_part,
    List.filter_eq]
  have held := commands_of_existing order existing ▸ listed
  cases asked with
  | add =>
    have additions : plan.hasAdditions = true := by
      simpa [mem_only, order.noAddition] using held
    have held : (plan.part .add).hasAdditions = true := by
      rw [← additions, hasAdditions, addedColumns_part_add]
      rfl
    rw [changedColumns_part_add, held, List.count_eq_zero.mpr order.noAddition]
    rfl
  | change =>
    have changes : plan.changedColumns ≠ [] := by
      simpa [mem_only, order.noChange] using held
    have nothingNew : (plan.part .change).hasAdditions = false := by
      rw [hasAdditions, addedColumns_part_change]
      rfl
    rw [changedColumns_part_change, nothingNew, List.count_eq_zero.mpr order.noChange]
    simp [lead, changes]
  | _ =>
    rw [List.count_eq_one_of_mem order.once (by simpa [mem_only] using held)]
    rfl

end

end Plan

namespace Compile

open Plan
open Sql (Statement)

/-! ## The addition of a part -/

theorem addedPrimaryKey?_part {plan : Plan} :
    addedPrimaryKey? (plan.part .add) = addedPrimaryKey? plan := by
  rw [addedPrimaryKey?, addedPrimaryKey?, addedColumns_part_add]
  rfl

section
variable (dialect : Dialect) {plan : Plan} (existing : plan.creating = false)
include existing

theorem columnDefinition_part (column : Column) :
    columnDefinition dialect (plan.part .add) column = columnDefinition dialect plan column := by
  cases dialect with
  | postgres | mysql => rfl
  | sqlite =>
    have clauses : sqliteClauses (plan.part .add) column = sqliteClauses plan column := by
      rw [sqliteClauses, sqliteClauses, creating_part existing, existing]
      rfl
    rw [columnDefinition, columnDefinition, clauses]

theorem separateIndexes_part :
    separateIndexes dialect (plan.part .add) = separateIndexes dialect plan := by
  rw [separateIndexes, separateIndexes, flaggedColumns, flaggedColumns, creating_part existing,
    existing, addedColumns_part_add]
  rfl

theorem indexVerdict_part :
    indexVerdict dialect (plan.part .add) = indexVerdict dialect plan := by
  funext index
  rw [indexVerdict, indexVerdict, creating_part existing, existing]
  rfl

theorem indexOutput_part : indexOutput dialect (plan.part .add) = indexOutput dialect plan := by
  funext index
  unfold indexOutput declaresKeysInline indexCreation? uniqueIndex plainIndex fullTextIndex?
    indexCreation
  rw [creating_part existing, existing, ifNotExists_part existing]
  rfl

theorem declaresForeignKeyInline_part :
    declaresForeignKeyInline dialect (plan.part .add) = declaresForeignKeyInline dialect plan := by
  funext key
  unfold declaresForeignKeyInline
  rw [ifNotExists_part existing, creating_part existing, existing, addedColumns_part_add]

theorem foreignKeyVerdict_part :
    foreignKeyVerdict dialect (plan.part .add) = foreignKeyVerdict dialect plan := by
  funext key
  rw [foreignKeyVerdict, foreignKeyVerdict, declaresForeignKeyInline_part dialect existing]
  rfl

theorem foreignKeyOutput_part :
    foreignKeyOutput dialect (plan.part .add) = foreignKeyOutput dialect plan := by
  funext key
  rw [foreignKeyOutput, foreignKeyOutput, declaresForeignKeyInline_part dialect existing]
  rfl

theorem definitionsVerdict_part :
    definitionsVerdict dialect (plan.part .add) = definitionsVerdict dialect plan := by
  rw [definitionsVerdict, definitionsVerdict, separateIndexes_part dialect existing,
    indexVerdict_part dialect existing, foreignKeyVerdict_part dialect existing]
  rfl

theorem definitionsOutput_part :
    definitionsOutput dialect (plan.part .add) = definitionsOutput dialect plan := by
  rw [definitionsOutput, definitionsOutput, separateIndexes_part dialect existing,
    indexOutput_part dialect existing, foreignKeyOutput_part dialect existing]
  rfl

theorem addColumnsOutput_part :
    addColumnsOutput dialect (plan.part .add) = addColumnsOutput dialect plan := by
  have additions : columnAdditions dialect (plan.part .add) = columnAdditions dialect plan := by
    rw [columnAdditions, columnAdditions, addedColumns_part_add]
    simp only [columnDefinition_part dialect existing]
  rw [addColumnsOutput, addColumnsOutput, additions, addedColumns_part_add, addedPrimaryKey?_part]
  cases dialect <;> rfl

end

/-! ## The commands of parts -/

section
variable {dialect : Dialect} {plan : Plan}

/-- Fewer columns have no more faults. -/
theorem checkColumns_of_sublist {part : Plan} (fewer : part.columns.Sublist plan.columns)
    (passed : checkColumns plan = .ok ()) : checkColumns part = .ok () := by
  obtain ⟨columns, distinct⟩ := checkColumns_ok_iff.mp passed
  exact checkColumns_ok_iff.mpr ⟨fun column listed => columns column (fewer.mem listed),
    distinct.sublist (fewer.map _)⟩

variable (existing : plan.creating = false) {asked : Command} (noCreation : asked.isCreate = false)
include existing noCreation

/-- What passes in the plan passes in its part; only the columns are checked as a whole there. -/
theorem commandVerdict_part (passed : commandVerdict dialect plan asked = .ok ()) :
    commandVerdict dialect (plan.part asked) asked = .ok () := by
  cases asked with
  | create | createIfNotExists => cases noCreation
  | add =>
    obtain ⟨addition, definitions⟩ := bind_eq_ok_iff.mp passed
    obtain ⟨table, columns⟩ := bind_eq_ok_iff.mp addition
    obtain ⟨columns, primary⟩ := bind_eq_ok_iff.mp columns
    refine bind_eq_ok_iff.mpr ⟨bind_eq_ok_iff.mpr ⟨table, bind_eq_ok_iff.mpr ⟨?_, ?_⟩⟩, ?_⟩
    · exact checkColumns_of_sublist List.filter_sublist columns
    · rwa [addedPrimaryKey?_part]
    · rwa [definitionsVerdict_part dialect existing]
  | change =>
    obtain ⟨table, columns⟩ := bind_eq_ok_iff.mp passed
    refine bind_eq_ok_iff.mpr ⟨table, ?_⟩
    cases dialect with
    | sqlite => rwa [changedColumns_part_change]
    | postgres | mysql => exact checkColumns_of_sublist List.filter_sublist columns
  | _ => exact passed

theorem commandOutput_part :
    commandOutput dialect (plan.part asked) asked = commandOutput dialect plan asked := by
  cases asked with
  | create | createIfNotExists => cases noCreation
  | add =>
    rw [commandOutput, commandOutput, addColumnsOutput_part dialect existing,
      definitionsOutput_part dialect existing]
  | change =>
    unfold commandOutput changeColumnsOutput
    rw [changedColumns_part_change]
    rfl
  | comment =>
    unfold commandOutput tableCommentOutput
    rw [creating_part existing, existing]
    rfl
  | _ => rfl

end

end Compile

namespace Plan

open Compile
open Sql (Statement)

theorem mapM_eq_ok {α β : Type} {stage : α → Except CompileError β} {output : α → β} {list : List α}
    (each : ∀ a ∈ list, stage a = .ok (output a)) : list.mapM stage = .ok (list.map output) := by
  induction list with
  | nil => rfl
  | cons a rest ih =>
    obtain ⟨first, others⟩ := List.forall_mem_cons.mp each
    rw [List.mapM_cons, first, ih others]
    rfl

/-- An alteration that is built and compiles is the alterations of its parts: each part is built of the
steps for one command, has that command only and compiles, and their statements, one part after the
other in the order of the commands, are those of the whole. -/
theorem toSql_parts {dialect : Dialect} {table : String} {steps : List Step} {texts : List String}
    (existing : (build table steps).creating = false)
    (compiled : (build table steps).toSql dialect = .ok texts) :
    (∀ asked ∈ (build table steps).commands,
      (build table steps).part asked =
        build table (steps.filter fun step => step.work? = some asked) ∧
      ((build table steps).part asked).commands = [asked]) ∧
    ∃ parts, (build table steps).commands.mapM
        (fun asked => ((build table steps).part asked).toSql dialect) = .ok parts ∧
      texts = parts.flatten := by
  obtain ⟨passed, _, rfl⟩ := statements_of_toSql compiled
  have order := asksInOrder_build table steps
  refine ⟨fun asked listed => ⟨part_build table steps asked, commands_part existing order listed⟩, ?_⟩
  have each : ∀ asked ∈ (build table steps).commands,
      ((build table steps).part asked).toSql dialect =
        .ok ((commandOutput dialect (build table steps) asked).map (Statement.text dialect)) := by
    intro asked listed
    have noCreation := isCreate_of_existing order existing listed
    have own := commands_part existing order listed
    refine (toSql_splits dialect _).eq_ok_iff.mpr ⟨?_, ?_⟩
    · rw [verdict, own, forM_eq_ok_iff, List.forall_mem_singleton]
      exact commandVerdict_part existing noCreation (forM_eq_ok_iff.mp passed asked listed)
    · rw [output, own, List.flatMap_singleton, commandOutput_part existing noCreation]
  refine ⟨_, mapM_eq_ok each, ?_⟩
  rw [output, List.map_flatMap, List.flatMap_def]

/-- A change, an addition, a drop and a comment, in whatever order they were stated. -/
theorem toSql_parts_fourCommands :
    let steps : List Step :=
      [.dropColumn "c", .column "b" .integer [.nullable], .comment "x",
        .foreignKey "b" [.references "id", .on "u"], .column "a" .text [.change]]
    let texts :=
      ["ALTER TABLE \"t\" ALTER COLUMN \"a\" TYPE TEXT, ALTER COLUMN \"a\" SET NOT NULL, " ++
          "ALTER COLUMN \"a\" DROP DEFAULT",
        "ALTER TABLE \"t\" ADD COLUMN \"b\" INTEGER",
        "ALTER TABLE \"t\" ADD CONSTRAINT \"fk_t_u\" FOREIGN KEY (\"b\") REFERENCES \"u\" (\"id\")",
        "ALTER TABLE \"t\" DROP COLUMN \"c\"",
        "COMMENT ON TABLE \"t\" IS 'x'"]
    (build "t" steps).creating = false ∧ (build "t" steps).toSql .postgres = .ok texts ∧
      (build "t" steps).commands = [.change, .add, .dropColumn, .comment] ∧
      ∃ parts, (build "t" steps).commands.mapM
          (fun asked => ((build "t" steps).part asked).toSql .postgres) = .ok parts ∧
        texts = parts.flatten := by
  intro steps texts
  have existing : (build "t" steps).creating = false := by decide +kernel
  have compiled : (build "t" steps).toSql .postgres = .ok texts := by decide +kernel
  exact ⟨existing, compiled, by decide +kernel, (toSql_parts existing compiled).2⟩

end Plan

end TablePlan

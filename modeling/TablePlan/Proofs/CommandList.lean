import Mathlib.Data.List.Induction
import TablePlan.Proofs.Commands
import TablePlan.Proofs.Guards

/-!
# The list of commands

A plan that is built lists the commands that its steps ask for, each at its first request
(`requested_build`), and a command that works on a list or an option of the plan is listed exactly
when there is something for it to work on.  So no statement that a command gives out is an alteration
without actions (`acts_commandOutput`), as dropping no columns would be.  Main statement: the list and
what it works on stay in step, and every statement says something (`listsCommands_build`).
-/

namespace TablePlan

/-- The command that a step asks for. -/
def Step.command? : Step → Option Command
  | .create => some .create
  | .createIfNotExists => some .createIfNotExists
  | .drop => some .drop
  | .dropIfExists => some .dropIfExists
  | .rename _ => some .rename
  | .comment _ => some .comment
  | .dropColumn _ => some .dropColumn
  | .renameColumn .. => some .renameColumn
  | .dropIndex _ => some .dropIndex
  | .dropUnique _ => some .dropUnique
  | .dropFullText _ => some .dropFullText
  | .dropPrimary | .dropPrimaryNamed _ => some .dropPrimary
  | .dropForeign _ => some .dropForeign
  | .renameIndex .. => some .renameIndex
  | .engine _ | .charset _ | .collation _ | .column .. | .index .. | .foreignKey .. => none

/-- Whether the command works on a list or an option of the plan that its own steps fill. -/
def Command.isDeferred : Command → Bool
  | .rename | .comment | .dropPrimary | .dropColumn | .renameColumn | .dropIndex | .dropUnique
  | .dropFullText | .dropForeign | .renameIndex => true
  | .create | .createIfNotExists | .add | .change | .drop | .dropIfExists => false

/-! ## Statements that say something -/

namespace Sql

theorem Statement.text_ne_empty (dialect : Dialect) (statement : Statement) :
    statement.text dialect ≠ "" := by
  have opened {words : String} (some : words ≠ "") (rest : Fragment) :
      Fragment.text dialect (.bare words :: rest) ≠ "" := by
    intro empty
    have begins := begins_bare dialect words rest
    rw [empty] at begins
    exact some (String.toList_eq_nil_iff.mp (List.prefix_nil.mp begins))
  cases statement with
  | createTable | alterTable | renameTable | dropTable | createIndex | renameIndex | dropIndex
  | commentOnTable | commentOnColumn => exact opened (by decide) _

/-- The statement is no alteration of a table, or one with actions. -/
def Statement.Acts : Statement → Prop
  | .alterTable _ alterations => alterations ≠ []
  | _ => True

theorem Statement.acts_action {table : Path} {alteration : Alteration} :
    (alterTable table [alteration]).Acts :=
  List.cons_ne_nil _ _

end Sql

namespace Compile

open Sql (Statement)
open Sql.Statement (acts_action)

variable {dialect : Dialect} {plan : Plan}

theorem acts_map {α : Type} {list : List α} {part : α → Statement} (each : ∀ a, (part a).Acts) :
    ∀ statement ∈ list.map part, statement.Acts := by
  intro statement listed
  obtain ⟨a, _, rfl⟩ := List.mem_map.mp listed
  exact each a

theorem acts_columnComments (columns : List Column) :
    ∀ statement ∈ columnComments dialect plan columns, statement.Acts := by
  intro statement listed
  obtain ⟨column, text, rfl⟩ := exists_of_mem_columnComments listed
  trivial

theorem acts_definitionsOutput : ∀ statement ∈ definitionsOutput dialect plan, statement.Acts := by
  intro statement listed
  rcases mem_definitionsOutput listed with ⟨index, rfl, _⟩ | ⟨_, added, rfl⟩
  · trivial
  · exact acts_action

/-- New columns are added together only if there are any. -/
theorem acts_addColumnsOutput : ∀ statement ∈ addColumnsOutput dialect plan, statement.Acts := by
  intro statement listed
  unfold addColumnsOutput at listed
  split at listed
  · exact acts_map (fun _ => acts_action) statement listed
  · split at listed
    · cases listed
    · next filled =>
      rcases List.mem_cons.mp listed with rfl | comment
      · have added : columnAdditions dialect plan ≠ [] := by simpa [columnAdditions] using filled
        exact fun none => added (List.append_eq_nil_iff.mp none).1
      · exact acts_columnComments _ statement comment

/-- Changed columns are changed together only if there are any. -/
theorem acts_changeColumnsOutput :
    ∀ statement ∈ changeColumnsOutput dialect plan, statement.Acts := by
  cases dialect with
  | postgres =>
    have changed (column : Column) : (changeColumn plan column).Acts := List.cons_ne_nil _ _
    exact List.forall_mem_append.mpr ⟨acts_map changed, acts_columnComments _⟩
  | mysql =>
    intro statement listed
    rw [changeColumnsOutput_mysql] at listed
    split at listed
    · cases listed
    · next filled =>
      cases List.mem_singleton.mp listed
      simpa [Statement.Acts] using filled
  | sqlite => exact nofun

theorem acts_dropIndexes (names : List String) :
    ∀ statement ∈ names.map (dropIndex dialect plan), statement.Acts := by
  apply acts_map
  intro name
  cases dialect with
  | mysql => exact acts_action
  | postgres | sqlite => trivial

/-- A command that has something to work on gives out no alteration without actions.  Only the drop of
columns depends on that: it drops them all by one statement, and does not ask if there are any. -/
theorem acts_commandOutput {asked : Command} (works : plan.holdsWork asked = true) :
    ∀ statement ∈ commandOutput dialect plan asked, statement.Acts := by
  cases asked with
  | create | createIfNotExists =>
    refine List.forall_mem_append.mpr ⟨?_, acts_definitionsOutput⟩
    exact List.forall_mem_cons.mpr ⟨trivial, acts_columnComments _⟩
  | add => exact List.forall_mem_append.mpr ⟨acts_addColumnsOutput, acts_definitionsOutput⟩
  | change => exact acts_changeColumnsOutput
  | drop | dropIfExists => exact List.forall_mem_singleton.mpr trivial
  | rename =>
    refine List.forall_mem_singleton.mpr ?_
    cases dialect with
    | mysql => trivial
    | postgres | sqlite => exact acts_action
  | dropColumn =>
    have filled : plan.dropColumns.map Sql.Alteration.dropColumn ≠ [] := by
      simpa [Plan.holdsWork] using works
    cases dialect with
    | sqlite => exact acts_map fun _ => acts_action
    | postgres | mysql => exact List.forall_mem_singleton.mpr filled
  | renameColumn => exact acts_map fun _ => acts_action
  | dropIndex | dropUnique => exact acts_dropIndexes _
  | dropFullText =>
    cases dialect with
    | sqlite => exact List.forall_mem_nil _
    | postgres | mysql => exact acts_dropIndexes _
  | dropPrimary | dropForeign =>
    cases dialect with
    | sqlite => exact List.forall_mem_nil _
    | postgres | mysql => exact acts_map fun _ => acts_action
  | renameIndex =>
    cases dialect with
    | sqlite => exact List.forall_mem_nil _
    | postgres => exact acts_map fun _ => trivial
    | mysql => exact acts_map fun _ => acts_action
  | comment =>
    cases dialect with
    | sqlite => exact List.forall_mem_nil _
    | postgres => exact acts_map fun _ => trivial
    | mysql =>
      unfold commandOutput tableCommentOutput
      cases plan.creating with
      | true => exact List.forall_mem_nil _
      | false => exact acts_map fun _ => acts_action

end Compile

namespace Plan

open Compile
open Sql (Statement)

/-! ## What a step asks for -/

theorem requested_apply (plan : Plan) (step : Step) :
    (plan.apply step).requested =
      match step.command? with
      | none => plan.requested
      | some asked =>
        if asked ∈ plan.requested then plan.requested else plan.requested ++ [asked] := by
  cases step with
  | engine | charset | collation | column | index | foreignKey => rfl
  | _ => exact requested_request _ _

/-- A step fills nothing but what the command that it asks for works on. -/
theorem holdsWork_apply_of_ne (plan : Plan) {step : Step} {asked : Command}
    (different : step.command? ≠ some asked) :
    (plan.apply step).holdsWork asked = plan.holdsWork asked := by
  cases step with
  | engine | charset | collation | column | index | foreignKey => cases asked <;> rfl
  | _ =>
    refine (holdsWork_request _ _ _).trans ?_
    cases asked <;> simp [Step.command?, holdsWork] at different ⊢

theorem eraseDups_concat {α : Type} [DecidableEq α] (list : List α) (a : α) :
    (list ++ [a]).eraseDups =
      if a ∈ list.eraseDups then list.eraseDups else list.eraseDups ++ [a] := by
  rw [List.eraseDups_append]
  by_cases present : a ∈ list <;> simp [List.removeAll, List.eraseDups_cons, present]

/-- The commands of a plan that is built are those that its steps ask for, each at its first
request. -/
theorem requested_build (table : String) (steps : List Step) :
    (build table steps).requested = (steps.filterMap Step.command?).eraseDups := by
  induction steps using List.reverseRecOn with
  | nil => rfl
  | append_singleton steps step ih =>
    have last : build table (steps ++ [step]) = (build table steps).apply step :=
      build_append table steps [step]
    rw [last, requested_apply, List.filterMap_append, ih]
    cases asks : step.command? with
    | none => simp [asks]
    | some asked => simp [asks, eraseDups_concat]

/-- What a deferred command works on is filled only by steps that ask for the command. -/
theorem mem_requested_of_holdsWork (table : String) (steps : List Step) {asked : Command}
    (deferred : asked.isDeferred = true) (works : (build table steps).holdsWork asked = true) :
    asked ∈ (build table steps).requested := by
  revert works
  refine build_induction (P := fun plan => plan.holdsWork asked = true → asked ∈ plan.requested)
    table steps ?_ ?_
  · intro works
    cases asked <;> simp [Command.isDeferred, holdsWork] at deferred works
  · intro plan step kept works
    -- Either the step asks for the command itself, or it leaves what the command works on alone.
    rw [requested_apply]
    by_cases asks : step.command? = some asked
    · rw [asks]
      simp only
      split
      · next present => exact present
      · exact List.mem_append_right _ (List.mem_singleton.mpr rfl)
    · rw [holdsWork_apply_of_ne plan asks] at works
      have present := kept works
      split
      · exact present
      · split
        · exact present
        · exact List.mem_append_left _ present

/-! ## The list of a plan -/

/-- The commands of a plan are those that some steps ask for, in the order of their first requests,
and in step with what there is to work on. -/
structure ListsCommands (plan : Plan) (steps : List Step) : Prop where
  inOrder : plan.requested = (steps.filterMap Step.command?).eraseDups
  once : plan.requested.Nodup
  noAddition : .add ∉ plan.requested
  noChange : .change ∉ plan.requested
  deferred : ∀ asked : Command, asked.isDeferred = true →
    (asked ∈ plan.requested ↔ plan.holdsWork asked = true)
  creating : plan.creating = true → plan.commands = plan.requested
  existing : plan.creating = false →
    plan.commands =
      only (plan.columns.any fun column => column.change) .change ++
        only (plan.columns.any (fun column => !column.change) ||
          !plan.indexes.isEmpty || !plan.foreignKeys.isEmpty) .add ++
        plan.requested
  commandsOnce : plan.commands.Nodup

/-- Every statement of a compilation says something: what a command gives out has texts that are not
empty, so leaving out empty ones changes nothing, and no alteration of a table is without actions. -/
structure SaysSomething (plan : Plan) (dialect : Dialect) (texts : List String) : Prop where
  parts : ∀ asked ∈ plan.commands, ∃ part, Compile.command dialect plan asked = .ok part ∧
    ∀ statement ∈ part, statement.text dialect ≠ "" ∧ statement.Acts
  kept : texts.filter (fun text => !text.isEmpty) = texts
  statements : ∃ statements, plan.statements dialect = .ok statements ∧
    texts = statements.map (Statement.text dialect) ∧
    ∀ table alterations, .alterTable table alterations ∈ statements → alterations ≠ []

theorem listsCommands_build (table : String) (steps : List Step) :
    (build table steps).ListsCommands steps := by
  have order := asksInOrder_build table steps
  have works := asksForWork_build table steps
  refine
    { inOrder := requested_build table steps
      once := order.once
      noAddition := order.noAddition
      noChange := order.noChange
      deferred := fun asked deferred =>
        ⟨works asked, mem_requested_of_holdsWork table steps deferred⟩
      creating := commands_of_creating
      existing := ?_
      commandsOnce := nodup_commands order }
  intro existing
  have changes (plan : Plan) :
      (!plan.changedColumns.isEmpty) = plan.columns.any fun column => column.change := by
    rw [Bool.eq_iff_iff]
    simp [changedColumns]
  have additions (plan : Plan) :
      (!plan.addedColumns.isEmpty) = plan.columns.any fun column => !column.change := by
    rw [Bool.eq_iff_iff]
    simp [addedColumns]
  rw [commands_of_existing order existing, changes, hasAdditions, additions, List.append_assoc]

theorem saysSomething_of_toSql {plan : Plan} (order : plan.AsksInOrder) (works : plan.AsksForWork)
    {dialect : Dialect} {texts : List String} (compiled : plan.toSql dialect = .ok texts) :
    plan.SaysSomething dialect texts := by
  obtain ⟨passed, same, rfl⟩ := statements_of_toSql compiled
  have acts : ∀ asked ∈ plan.commands, ∀ statement ∈ commandOutput dialect plan asked,
      statement.Acts := by
    intro asked listed
    -- Adding and changing are not asked for, but they need nothing to work on.
    refine acts_commandOutput ?_
    by_cases addition : asked = .add
    · rw [addition]
      rfl
    · by_cases change : asked = .change
      · rw [change]
        rfl
      · exact works asked ((mem_commands_iff order asked addition change).mp listed)
  refine ⟨?_, ?_, plan.output dialect, same, rfl, ?_⟩
  · intro asked listed
    have ok := forM_eq_ok_iff.mp passed asked listed
    refine ⟨_, (command_splits dialect plan asked).eq_ok_iff.mpr ⟨ok, rfl⟩, ?_⟩
    intro statement given
    exact ⟨statement.text_ne_empty dialect, acts asked listed statement given⟩
  · refine List.filter_eq_self.mpr ?_
    intro text listed
    obtain ⟨statement, _, rfl⟩ := List.mem_map.mp listed
    simpa using statement.text_ne_empty dialect
  · intro table alterations listed
    obtain ⟨asked, member, given⟩ := List.mem_flatMap.mp listed
    exact acts asked member _ given

/-- The commands of a plan that is built are in step with its steps and with what it holds, and each
statement that it compiles to says something. -/
theorem commands_in_step (table : String) (steps : List Step) :
    (build table steps).ListsCommands steps ∧
    ∀ dialect texts, (build table steps).toSql dialect = .ok texts →
      (build table steps).SaysSomething dialect texts :=
  ⟨listsCommands_build table steps, fun _ _ compiled =>
    saysSomething_of_toSql (asksInOrder_build table steps) (asksForWork_build table steps) compiled⟩

/-- Asking again for a drop changes nothing but the list of what is dropped. -/
theorem commands_in_step_dropped :
    let steps : List Step :=
      [.dropColumn "a", .comment "x", .dropColumn "b", .column "c" .text [.change]]
    let texts := ["ALTER TABLE \x60t\x60 MODIFY COLUMN \x60c\x60 TEXT NOT NULL",
      "ALTER TABLE \x60t\x60 DROP COLUMN \x60a\x60, DROP COLUMN \x60b\x60",
      "ALTER TABLE \x60t\x60 COMMENT = 'x'"]
    (build "t" steps).commands = [.change, .dropColumn, .comment] ∧
    (build "t" steps).ListsCommands steps ∧
    (build "t" steps).toSql .mysql = .ok texts ∧
    (build "t" steps).SaysSomething .mysql texts := by
  intro steps texts
  have compiled : (build "t" steps).toSql .mysql = .ok texts := by decide +kernel
  obtain ⟨lists, meaningful⟩ := commands_in_step "t" steps
  exact ⟨by decide, lists, compiled, meaningful .mysql texts compiled⟩

end Plan

end TablePlan

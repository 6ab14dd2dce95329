import TablePlan.Plan.Step
import TablePlan.Proofs.Outcome

/-!
# The commands of a plan

Only creating, adding, changing and commenting declare anything; the statements of every other
command declare nothing (`declaresNothing_commandOutput`).  A plan that is built step by step asks
for no command twice and never for adding or changing (`asksInOrder_build`).  Main statement: all
that such a plan declares is declared by its one creation, or by its change and its addition
(`flatMap_output`).
-/

namespace TablePlan

namespace Sql

/-- Whether an action only drops or renames. -/
def Alteration.DeclaresNothing : Alteration → Prop
  | .dropColumn _ | .renameColumn .. | .dropConstraint _ | .dropPrimaryKey | .dropForeignKey _
  | .dropIndex _ | .renameIndex .. | .renameTable _ => True
  | _ => False

/-- Whether a statement only drops or renames: it declares no column, index or constraint and
attaches no comment. -/
def Statement.DeclaresNothing : Statement → Prop
  | .createTable .. | .createIndex _ | .commentOnTable .. | .commentOnColumn .. => False
  | .alterTable _ alterations => ∀ alteration ∈ alterations, alteration.DeclaresNothing
  | _ => True

theorem Statement.declaresNothing_action {table : Path} {alteration : Alteration}
    (nothing : alteration.DeclaresNothing) :
    (Statement.alterTable table [alteration]).DeclaresNothing :=
  List.forall_mem_singleton.mpr nothing

end Sql

/-- Whether the command is one of those that declare columns, indexes, constraints and comments. -/
def Command.declares : Command → Bool
  | .create | .createIfNotExists | .add | .change | .comment => true
  | _ => false

/-- The column that a step adds to a plan, if it states one. -/
def Step.columns : Step → List Column
  | .column name type modifiers => [Column.declare name type modifiers]
  | _ => []

namespace Compile

open Sql (Alteration Statement)
open Sql.Statement (declaresNothing_action)

/-! ## Commands that declare nothing -/

section
variable {dialect : Dialect} {plan : Plan}

theorem declaresNothing_map {α : Type} {list : List α} {part : α → Statement}
    (nothing : ∀ a, (part a).DeclaresNothing) :
    ∀ statement ∈ list.map part, statement.DeclaresNothing := by
  intro statement listed
  obtain ⟨a, _, rfl⟩ := List.mem_map.mp listed
  exact nothing a

theorem declaresNothing_dropIndexes (names : List String) :
    ∀ statement ∈ names.map (dropIndex dialect plan), statement.DeclaresNothing := by
  apply declaresNothing_map
  intro name
  cases dialect with
  | mysql => exact declaresNothing_action trivial
  | postgres | sqlite => trivial

theorem declaresNothing_commandOutput {asked : Command} (other : asked.declares = false) :
    ∀ statement ∈ commandOutput dialect plan asked, statement.DeclaresNothing := by
  cases asked with
  | create | createIfNotExists | add | change | comment => cases other
  | drop | dropIfExists => exact List.forall_mem_singleton.mpr trivial
  | rename =>
    refine List.forall_mem_singleton.mpr ?_
    cases dialect with
    | mysql => trivial
    | postgres | sqlite => exact declaresNothing_action trivial
  | dropColumn =>
    have dropped : ∀ alteration ∈ plan.dropColumns.map Alteration.dropColumn,
        alteration.DeclaresNothing := by
      intro alteration listed
      obtain ⟨_, _, rfl⟩ := List.mem_map.mp listed
      trivial
    cases dialect with
    | sqlite => exact declaresNothing_map fun _ => declaresNothing_action trivial
    | postgres | mysql => exact List.forall_mem_singleton.mpr dropped
  | renameColumn => exact declaresNothing_map fun _ => declaresNothing_action trivial
  | dropIndex | dropUnique => exact declaresNothing_dropIndexes _
  | dropFullText =>
    cases dialect with
    | sqlite => exact nofun
    | postgres | mysql => exact declaresNothing_dropIndexes _
  | dropPrimary =>
    cases dialect with
    | sqlite => exact nofun
    | postgres | mysql => exact declaresNothing_map fun _ => declaresNothing_action trivial
  | renameIndex =>
    cases dialect with
    | sqlite => exact nofun
    | postgres => exact declaresNothing_map fun _ => trivial
    | mysql => exact declaresNothing_map fun _ => declaresNothing_action trivial
  | dropForeign =>
    cases dialect with
    | sqlite => exact nofun
    | postgres | mysql => exact declaresNothing_map fun _ => declaresNothing_action trivial

theorem mem_definitionsOutput {statement : Statement}
    (listed : statement ∈ definitionsOutput dialect plan) :
    (∃ index, statement = .createIndex index ∧ index.table = tablePath plan) ∨
      dialect ≠ .sqlite ∧ ∃ added,
        statement = .alterTable (tablePath plan) [.addConstraint added] := by
  rcases List.mem_append.mp listed with listed | listed
  · obtain ⟨index, _, given⟩ := List.mem_filterMap.mp listed
    unfold indexOutput at given
    split at given
    · split at given
      · cases given
      · next existing =>
        cases given
        have notSqlite : dialect ≠ .sqlite := by
          rintro rfl
          simp at existing
        exact .inr ⟨notSqlite, _, rfl⟩
    · split at given
      · cases given
      · unfold indexCreation? at given
        split at given
        · cases given
          exact .inl ⟨_, rfl, rfl⟩
        · unfold fullTextIndex? at given
          cases dialect <;> cases given <;> exact .inl ⟨_, rfl, rfl⟩
        · cases given
          exact .inl ⟨_, rfl, rfl⟩
  · obtain ⟨key, _, given⟩ := List.mem_filterMap.mp listed
    unfold foreignKeyOutput at given
    split at given
    · cases given
    · next separate =>
      cases given
      have notSqlite : dialect ≠ .sqlite := by
        rintro rfl
        simp at separate
      exact .inr ⟨notSqlite, _, rfl⟩

variable (dialect plan) in
/-- A command that creates the table gives out its creation, and its indexes and foreign keys. -/
theorem commandOutput_of_isCreate {asked : Command} (creation : asked.isCreate = true) :
    ∃ ifNotExists, commandOutput dialect plan asked =
      createTableOutput dialect plan ifNotExists ++ definitionsOutput dialect plan := by
  cases asked with
  | create | createIfNotExists => exact ⟨_, rfl⟩
  | _ => cases creation

end

end Compile

namespace Plan

open Compile
open Sql (Statement)

/-! ## What building keeps -/

/-- No command is asked for twice, adding and changing are never asked for, and the comment of the
table is asked for when there is one. -/
structure AsksInOrder (plan : Plan) : Prop where
  once : plan.requested.Nodup
  noAddition : .add ∉ plan.requested
  noChange : .change ∉ plan.requested
  comment : .comment ∈ plan.requested ↔ plan.comment.isSome

theorem comment_request (plan : Plan) (command : Command) :
    (plan.request command).comment = plan.comment := by
  unfold request
  split <;> rfl

theorem mem_requested_request {plan : Plan} {command asked : Command} :
    asked ∈ (plan.request command).requested ↔ asked ∈ plan.requested ∨ asked = command := by
  rw [requested_request]
  split
  · next present =>
    constructor
    · exact .inl
    · rintro (member | rfl)
      · exact member
      · exact present
  · simp

theorem nodup_requested_request {plan : Plan} (once : plan.requested.Nodup) (command : Command) :
    (plan.request command).requested.Nodup := by
  rw [requested_request]
  split
  · exact once
  · next absent =>
    refine List.nodup_append.mpr ⟨once, by simp, ?_⟩
    rintro asked member _ single rfl
    cases List.mem_singleton.mp single
    exact absent member

namespace AsksInOrder

variable {plan : Plan}

/-- Only the commands and the comment count. -/
theorem of_same {other : Plan} (order : plan.AsksInOrder)
    (sameRequested : other.requested = plan.requested) (sameComment : other.comment = plan.comment) :
    other.AsksInOrder := by
  refine ⟨?_, ?_, ?_, ?_⟩
  · rw [sameRequested]
    exact order.once
  · rw [sameRequested]
    exact order.noAddition
  · rw [sameRequested]
    exact order.noChange
  · rw [sameRequested, sameComment]
    exact order.comment

theorem request {command : Command} (order : plan.AsksInOrder)
    (other : command.declares = false ∨ command.isCreate) (noComment : command ≠ .comment) :
    (plan.request command).AsksInOrder := by
  refine ⟨nodup_requested_request order.once command, ?_, ?_, ?_⟩
  · rw [mem_requested_request]
    rintro (member | rfl)
    · exact order.noAddition member
    · simp [Command.declares, Command.isCreate] at other
  · rw [mem_requested_request]
    rintro (member | rfl)
    · exact order.noChange member
    · simp [Command.declares, Command.isCreate] at other
  · rw [mem_requested_request, comment_request, order.comment]
    constructor
    · rintro (given | rfl)
      · exact given
      · exact absurd rfl noComment
    · exact .inl

theorem requestComment (order : plan.AsksInOrder) (text : String) :
    ({ plan with comment := some text }.request .comment).AsksInOrder := by
  have once : ({ plan with comment := some text } : Plan).requested.Nodup := order.once
  refine ⟨nodup_requested_request once .comment, ?_, ?_, ?_⟩
  · rw [mem_requested_request]
    rintro (member | same)
    · exact order.noAddition member
    · cases same
  · rw [mem_requested_request]
    rintro (member | same)
    · exact order.noChange member
    · cases same
  · rw [mem_requested_request, comment_request]
    exact ⟨fun _ => rfl, fun _ => .inr rfl⟩

theorem apply (order : plan.AsksInOrder) (step : Step) : (plan.apply step).AsksInOrder := by
  cases step with
  | create | createIfNotExists => exact order.request (.inr rfl) nofun
  | drop | dropIfExists => exact order.request (.inl rfl) nofun
  | engine | charset | collation | column | index | foreignKey => exact order.of_same rfl rfl
  | comment text => exact order.requestComment text
  | _ =>
    refine AsksInOrder.request ?_ (.inl rfl) nofun
    exact order.of_same rfl rfl

end AsksInOrder

/-- What holds of a plan without statements and is kept by each statement holds of every plan that
is built. -/
theorem build_induction {P : Plan → Prop} (table : String) (steps : List Step)
    (start : P { table }) (kept : ∀ plan step, P plan → P (plan.apply step)) :
    P (build table steps) := by
  have run : ∀ plan : Plan, P plan → P (steps.foldl Plan.apply plan) := by
    intro plan holds
    induction steps generalizing plan with
    | nil => exact holds
    | cons step rest ih => exact ih (plan.apply step) (kept plan step holds)
  exact run { table } start

theorem asksInOrder_build (table : String) (steps : List Step) :
    (build table steps).AsksInOrder :=
  build_induction table steps ⟨List.nodup_nil, nofun, nofun, by simp⟩ fun _ step order =>
    order.apply step

/-! ## What the commands work on -/

/-- Whether the plan holds something for a command to work on; a command for the table as a whole
needs nothing. -/
def holdsWork (plan : Plan) : Command → Bool
  | .rename => plan.newName.isSome
  | .comment => plan.comment.isSome
  | .dropPrimary => plan.dropPrimary.isSome
  | .dropColumn => !plan.dropColumns.isEmpty
  | .renameColumn => !plan.renameColumns.isEmpty
  | .dropIndex => !plan.dropIndexes.isEmpty
  | .dropUnique => !plan.dropUniques.isEmpty
  | .dropFullText => !plan.dropFullTexts.isEmpty
  | .dropForeign => !plan.dropForeigns.isEmpty
  | .renameIndex => !plan.renameIndexes.isEmpty
  | .create | .createIfNotExists | .add | .change | .drop | .dropIfExists => true

/-- Every command that is asked for has something to work on. -/
def AsksForWork (plan : Plan) : Prop :=
  ∀ asked ∈ plan.requested, plan.holdsWork asked = true

theorem holdsWork_request (plan : Plan) (command asked : Command) :
    (plan.request command).holdsWork asked = plan.holdsWork asked := by
  unfold request
  split
  · rfl
  · cases asked <;> rfl

/-- A statement that asks for a command fills what that command works on, and nothing else. -/
theorem AsksForWork.request {plan other : Plan} {command : Command} (works : plan.AsksForWork)
    (sameRequested : other.requested = plan.requested) (filled : other.holdsWork command = true)
    (kept : ∀ asked, asked ≠ command → other.holdsWork asked = plan.holdsWork asked) :
    (other.request command).AsksForWork := by
  intro asked member
  rw [holdsWork_request]
  by_cases same : asked = command
  · rw [same, filled]
  · rw [kept asked same]
    rw [mem_requested_request, sameRequested] at member
    exact works asked (member.resolve_right same)

theorem AsksForWork.apply {plan : Plan} (works : plan.AsksForWork) (step : Step) :
    (plan.apply step).AsksForWork := by
  cases step with
  | create | createIfNotExists | drop | dropIfExists =>
    exact works.request rfl rfl fun _ _ => rfl
  | engine | charset | collation | column | index | foreignKey =>
    intro asked member
    have holds := works asked member
    cases asked <;> exact holds
  | dropColumn | renameColumn | dropIndex | dropUnique | dropFullText | dropForeign | renameIndex =>
    refine works.request rfl (by simp [holdsWork]) ?_
    intro asked different
    cases asked <;> simp [holdsWork] at different ⊢
  | rename | comment | dropPrimary | dropPrimaryNamed =>
    refine works.request rfl rfl ?_
    intro asked different
    cases asked <;> simp [holdsWork] at different ⊢

theorem asksForWork_build (table : String) (steps : List Step) :
    (build table steps).AsksForWork :=
  build_induction table steps nofun fun _ step works => works.apply step

/-! ## Columns -/

theorem columns_request (plan : Plan) (command : Command) :
    (plan.request command).columns = plan.columns := by
  unfold request
  split <;> rfl

theorem columns_apply (plan : Plan) (step : Step) :
    (plan.apply step).columns = plan.columns ++ step.columns := by
  cases step with
  | column => rfl
  | engine | charset | collation | index | foreignKey => exact (List.append_nil _).symm
  | _ => exact (columns_request _ _).trans (List.append_nil _).symm

/-- What holds of every column as it is stated holds of all columns of a plan that is built. -/
theorem forall_mem_columns_build {P : Column → Prop}
    (stated : ∀ name type modifiers, P (Column.declare name type modifiers)) (table : String)
    (steps : List Step) : ∀ column ∈ (build table steps).columns, P column := by
  refine build_induction (P := fun plan => ∀ column ∈ plan.columns, P column) table steps ?_ ?_
  · intro column listed
    cases listed
  · intro plan step all column listed
    rw [columns_apply, List.mem_append] at listed
    rcases listed with earlier | last
    · exact all column earlier
    · cases step with
      | column name type modifiers =>
        rw [List.mem_singleton.mp last]
        exact stated name type modifiers
      | _ => cases last

section
variable {plan : Plan}

/-! ## Commands that are implied -/

theorem mem_lead {asked command : Command} {needed : Bool} {commands : List Command} :
    asked ∈ lead needed command commands ↔ asked ∈ commands ∨ needed = true ∧ asked = command := by
  unfold lead
  cases needed <;> by_cases present : command ∈ commands <;> simp [present]
  · rintro rfl
    exact present
  · exact or_comm

theorem add_mem_commands (existing : plan.creating = false) (additions : plan.hasAdditions = true) :
    .add ∈ plan.commands := by
  simp [commands, existing, mem_lead, additions]

theorem change_mem_commands (existing : plan.creating = false) (changes : plan.changedColumns ≠ []) :
    .change ∈ plan.commands := by
  simp [commands, existing, mem_lead, changes]

theorem exists_creation_mem_commands (creating : plan.creating = true) :
    ∃ asked ∈ plan.commands, asked.isCreate = true := by
  rw [commands_of_creating creating]
  exact List.any_eq_true.mp creating

end

/-! ## The statements that declare -/

theorem ifNotExists_eq_false_of_existing {plan : Plan} (existing : plan.creating = false) :
    plan.ifNotExists = false := by
  rw [creating, List.any_eq_false] at existing
  rw [ifNotExists, List.contains_eq_mem, decide_eq_false_iff_not]
  intro member
  exact existing _ member rfl

/-- The statements that declare something: those of the creation, or of the change and the addition,
and behind them the indexes and foreign keys. -/
def declaringOutput (dialect : Dialect) (plan : Plan) : List Statement :=
  (if plan.creating then createTableOutput dialect plan plan.ifNotExists
    else changeColumnsOutput dialect plan ++ addColumnsOutput dialect plan) ++
  definitionsOutput dialect plan

theorem commands_of_existing {plan : Plan} (order : plan.AsksInOrder)
    (existing : plan.creating = false) :
    plan.commands = only (!plan.changedColumns.isEmpty) .change ++
      (only plan.hasAdditions .add ++ plan.requested) := by
  have addition : lead plan.hasAdditions .add plan.requested =
      only plan.hasAdditions .add ++ plan.requested := by
    have absent := order.noAddition
    cases plan.hasAdditions <;> simp [lead, only, absent]
  have change : .change ∉ only plan.hasAdditions .add ++ plan.requested := by
    simp [mem_only, order.noChange]
  unfold commands
  rw [existing, addition]
  cases plan.changedColumns.isEmpty <;> simp_all [lead, only]

section
variable {plan : Plan} (order : plan.AsksInOrder)
include order

theorem nodup_commands : plan.commands.Nodup := by
  have once := order.once
  cases creating : plan.creating with
  | true => rwa [commands_of_creating creating]
  | false =>
    have noAddition := order.noAddition
    have noChange := order.noChange
    rw [commands_of_existing order creating]
    cases plan.changedColumns.isEmpty <;> cases plan.hasAdditions <;>
      simp [only, once, noAddition, noChange]

theorem mem_commands_iff (asked : Command) (noAddition : asked ≠ .add) (noChange : asked ≠ .change) :
    asked ∈ plan.commands ↔ asked ∈ plan.requested := by
  cases creating : plan.creating with
  | true => rw [commands_of_creating creating]
  | false =>
    rw [commands_of_existing order creating]
    simp [mem_only, noAddition, noChange]

theorem creating_of_mem_commands {creation : Command} (member : creation ∈ plan.commands)
    (kind : creation.isCreate = true) : plan.creating = true := by
  have requested : creation ∈ plan.requested := by
    refine (mem_commands_iff order creation ?_ ?_).mp member
    · rintro rfl
      cases kind
    · rintro rfl
      cases kind
  exact List.any_eq_true.mpr ⟨creation, requested, kind⟩

/-- The commands of an alteration create nothing. -/
theorem isCreate_of_existing (existing : plan.creating = false) {asked : Command}
    (listed : asked ∈ plan.commands) : asked.isCreate = false := by
  rw [← Bool.not_eq_true]
  intro creation
  rw [creating_of_mem_commands order listed creation] at existing
  cases existing

end

theorem flatMap_of_nodup {α β : Type} {list : List α} {f : α → List β} {a : α} (once : list.Nodup)
    (member : a ∈ list) (others : ∀ b ∈ list, b ≠ a → f b = []) : list.flatMap f = f a := by
  induction list with
  | nil => cases member
  | cons b rest ih =>
    obtain ⟨fresh, once⟩ := List.nodup_cons.mp once
    rw [List.flatMap_cons]
    rcases List.mem_cons.mp member with rfl | member
    · have silent : rest.flatMap f = [] := by
        rw [List.flatMap_eq_nil_iff]
        intro c listed
        refine others c (List.mem_cons_of_mem _ listed) ?_
        rintro rfl
        exact fresh listed
      rw [silent, List.append_nil]
    · have different : b ≠ a := by
        rintro rfl
        exact fresh member
      rw [others b List.mem_cons_self different, List.nil_append]
      exact ih once member fun c listed => others c (List.mem_cons_of_mem _ listed)

/-- A plan that creates its table does so by one command. -/
theorem exists_creation {plan : Plan}
    (single : ¬ (.create ∈ plan.requested ∧ .createIfNotExists ∈ plan.requested))
    (creating : plan.creating = true) :
    ∃ creation ∈ plan.requested, creation.isCreate = true ∧
      (∀ asked ∈ plan.requested, asked.isCreate = true → asked = creation) ∧
      ∀ dialect, commandOutput dialect plan creation =
        createTableOutput dialect plan plan.ifNotExists ++ definitionsOutput dialect plan := by
  by_cases repeatable : .createIfNotExists ∈ plan.requested
  · have ifNotExists : plan.ifNotExists = true := by simpa [Plan.ifNotExists] using repeatable
    refine ⟨.createIfNotExists, repeatable, rfl, ?_, fun dialect => by rw [ifNotExists]; rfl⟩
    intro asked listed kind
    cases asked with
    | create => exact absurd ⟨listed, repeatable⟩ single
    | createIfNotExists => rfl
    | _ => cases kind
  · have ifNotExists : plan.ifNotExists = false := by simpa [Plan.ifNotExists] using repeatable
    have alone (asked : Command) (listed : asked ∈ plan.requested) (kind : asked.isCreate = true) :
        asked = .create := by
      cases asked with
      | create => rfl
      | createIfNotExists => exact absurd listed repeatable
      | _ => cases kind
    obtain ⟨asked, listed, kind⟩ := List.any_eq_true.mp creating
    have plain : .create ∈ plan.requested := alone asked listed kind ▸ listed
    exact ⟨.create, plain, rfl, alone, fun dialect => by rw [ifNotExists]; rfl⟩

section
variable {dialect : Dialect} {plan : Plan} {β : Type} {f : Statement → List β}
  (nothing : ∀ statement, statement.DeclaresNothing → f statement = [])
include nothing

theorem flatMap_commandOutput {asked : Command} (other : asked.declares = false) :
    (commandOutput dialect plan asked).flatMap f = [] :=
  List.flatMap_eq_nil_iff.mpr fun statement listed =>
    nothing statement (declaresNothing_commandOutput other statement listed)

variable (noComment : (tableCommentOutput dialect plan).flatMap f = []) (order : plan.AsksInOrder)
  (single : ¬ (.create ∈ plan.requested ∧ .createIfNotExists ∈ plan.requested))
include noComment order single

/-- All that a creation declares is declared by its one command of creation. -/
theorem flatMap_output_of_creating (creating : plan.creating = true) :
    (plan.output dialect).flatMap f = (plan.declaringOutput dialect).flatMap f := by
  obtain ⟨creation, member, _, alone, outputs⟩ := exists_creation single creating
  have commands := commands_of_creating creating
  have one : (plan.output dialect).flatMap f = (commandOutput dialect plan creation).flatMap f := by
    unfold output
    rw [commands, List.flatMap_assoc]
    refine flatMap_of_nodup order.once member ?_
    intro asked listed different
    cases asked with
    | create | createIfNotExists => exact absurd (alone _ listed rfl) different
    | add => exact absurd listed order.noAddition
    | change => exact absurd listed order.noChange
    | comment => exact noComment
    | _ => exact flatMap_commandOutput nothing rfl
  rw [one, outputs, declaringOutput, if_pos creating]

end

theorem flatMap_only {α β : Type} (wanted : Bool) (a : α) (f : α → List β) :
    (only wanted a).flatMap f = if wanted then f a else [] := by
  cases wanted <;> simp [only]

section
variable {dialect : Dialect} {plan : Plan}

theorem changeColumnsOutput_eq_nil (unchanged : plan.changedColumns = []) :
    changeColumnsOutput dialect plan = [] := by
  unfold changeColumnsOutput
  rw [unchanged]
  cases dialect <;> simp [columnComments]

theorem additions_eq_nil (existing : plan.creating = false) (nothingNew : plan.hasAdditions = false) :
    addColumnsOutput dialect plan ++ definitionsOutput dialect plan = [] := by
  obtain ⟨⟨columns, indexes⟩, foreignKeys⟩ :
      (plan.addedColumns = [] ∧ plan.indexes = []) ∧ plan.foreignKeys = [] := by
    simpa [hasAdditions] using nothingNew
  simp [addColumnsOutput, columnAdditions, definitionsOutput, separateIndexes, flaggedColumns,
    existing, columns, indexes, foreignKeys]

variable {β : Type} {f : Statement → List β}
  (nothing : ∀ statement, statement.DeclaresNothing → f statement = [])
  (noComment : (tableCommentOutput dialect plan).flatMap f = []) (order : plan.AsksInOrder)
include nothing noComment order

/-- All that is declared of an existing table is declared by its change and its addition. -/
theorem flatMap_output_of_existing (existing : plan.creating = false) :
    (plan.output dialect).flatMap f = (plan.declaringOutput dialect).flatMap f := by
  have silent : plan.requested.flatMap (fun asked => (commandOutput dialect plan asked).flatMap f) =
      [] := by
    rw [List.flatMap_eq_nil_iff]
    intro asked listed
    have noCreation : asked.isCreate = false := by
      rw [creating, List.any_eq_false] at existing
      simpa using existing asked listed
    cases asked with
    | create | createIfNotExists => cases noCreation
    | add => exact absurd listed order.noAddition
    | change => exact absurd listed order.noChange
    | comment => exact noComment
    | _ => exact flatMap_commandOutput nothing rfl
  have change : (if (!plan.changedColumns.isEmpty) = true then
      (commandOutput dialect plan .change).flatMap f else []) =
      (changeColumnsOutput dialect plan).flatMap f := by
    by_cases unchanged : plan.changedColumns = []
    · simp [unchanged, changeColumnsOutput_eq_nil unchanged]
    · simp [unchanged, commandOutput]
  have addition : (if plan.hasAdditions = true then
      (commandOutput dialect plan .add).flatMap f else []) =
      (addColumnsOutput dialect plan ++ definitionsOutput dialect plan).flatMap f := by
    cases nothingNew : plan.hasAdditions with
    | false => simp [additions_eq_nil existing nothingNew]
    | true => rfl
  unfold output declaringOutput
  rw [commands_of_existing order existing, List.flatMap_assoc, List.flatMap_append,
    List.flatMap_append, flatMap_only, flatMap_only, silent, List.append_nil, change, addition]
  simp [existing]

/-- All that a plan declares is declared by its one creation, or by its change and its addition. -/
theorem flatMap_output
    (single : ¬ (.create ∈ plan.requested ∧ .createIfNotExists ∈ plan.requested)) :
    (plan.output dialect).flatMap f = (plan.declaringOutput dialect).flatMap f := by
  cases creating : plan.creating with
  | false => exact flatMap_output_of_existing nothing noComment order creating
  | true => exact flatMap_output_of_creating nothing noComment order single creating

end

end Plan

end TablePlan

import TablePlan.Proofs.Declarations

/-!
# Which table the statements address, and when

Commands are carried out in the order of their first request, and each statement addresses the table
by the name that the plan was given.  So a statement can stand in front of the creation of its table,
or behind the statement that renames it.  Main statement: it does exactly where a command that
addresses the table was requested there (`statements_address_given_name`).
-/

namespace TablePlan

/-! ## Before and behind the first of a kind -/

section
variable {α β : Type}

/-- What stands in front of the first member of a kind. -/
def beforeFirst (kind : α → Bool) (list : List α) : List α :=
  list.takeWhile fun a => !kind a

/-- What stands behind the first member of a kind. -/
def afterFirst (kind : α → Bool) (list : List α) : List α :=
  (list.dropWhile fun a => !kind a).tail

variable {kind : α → Bool} {made : β → Bool} {parts : α → List β}
  (silent : ∀ a, kind a = false → ∀ b ∈ parts a, made b = false)
include silent

/-- If the parts of a member of one kind begin with one of the other kind, and no other parts hold
such a one, then what stands in front of it are the parts of what stands in front of that member. -/
theorem beforeFirst_flatMap
    (begins : ∀ a, kind a = true → ∃ b rest, parts a = b :: rest ∧ made b = true) (list : List α) :
    beforeFirst made (list.flatMap parts) = (beforeFirst kind list).flatMap parts := by
  induction list with
  | nil => rfl
  | cons a rest ih =>
    unfold beforeFirst at ih ⊢
    rw [List.flatMap_cons]
    cases own : kind a with
    | true =>
      obtain ⟨b, others, starts, found⟩ := begins a own
      rw [starts, List.cons_append, List.takeWhile_cons_of_neg (by simp [found]),
        List.takeWhile_cons_of_neg (by simp [own]), List.flatMap_nil]
    | false =>
      have passed : ∀ b ∈ parts a, (!made b) = true := by
        intro b member
        rw [silent a own b member]
        rfl
      rw [List.takeWhile_append_of_pos passed, ih, List.takeWhile_cons_of_pos (by simp [own]),
        List.flatMap_cons]

/-- If the only part of a member of one kind is of the other kind, then what stands behind it are the
parts of what stands behind that member. -/
theorem afterFirst_flatMap (alone : ∀ a, kind a = true → ∃ b, parts a = [b] ∧ made b = true)
    (list : List α) : afterFirst made (list.flatMap parts) = (afterFirst kind list).flatMap parts := by
  induction list with
  | nil => rfl
  | cons a rest ih =>
    unfold afterFirst at ih ⊢
    rw [List.flatMap_cons]
    cases own : kind a with
    | true =>
      obtain ⟨b, single, found⟩ := alone a own
      rw [single, List.singleton_append, List.dropWhile_cons_of_neg (by simp [found]),
        List.dropWhile_cons_of_neg (by simp [own]), List.tail_cons, List.tail_cons]
    | false =>
      have passed : ∀ b ∈ parts a, (!made b) = true := by
        intro b member
        rw [silent a own b member]
        rfl
      rw [List.dropWhile_append_of_pos passed, ih, List.dropWhile_cons_of_pos (by simp [own])]

end

/-! ## The table of a statement -/

namespace Sql

/-- The table that a statement addresses; one that drops or renames an index by the name of the index
addresses none. -/
def Statement.table? : Statement → Option Path
  | .createTable _ table _ _ | .alterTable table _ | .renameTable table _ | .dropTable _ table
  | .commentOnTable table _ | .commentOnColumn table _ _ => some table
  | .createIndex index => some index.table
  | .renameIndex .. | .dropIndex _ => none

/-- Whether an action renames the table. -/
def Alteration.renamesTable : Alteration → Bool
  | .renameTable _ => true
  | _ => false

/-- Whether a statement renames the table. -/
def Statement.renamesTable : Statement → Bool
  | .renameTable .. => true
  | .alterTable _ alterations => alterations.any Alteration.renamesTable
  | _ => false

/-- The statement addresses a table or none, and it neither creates nor renames one. -/
structure Statement.WorksOn (table? : Option Path) (statement : Statement) : Prop where
  table : statement.table? = table?
  creates : statement.createsTable = false
  renames : statement.renamesTable = false

theorem Statement.worksOn_alterTable {table : Path} {alterations : List Alteration}
    (stays : ∀ alteration ∈ alterations, alteration.renamesTable = false) :
    (alterTable table alterations).WorksOn (some table) := by
  refine ⟨rfl, rfl, ?_⟩
  rw [renamesTable, List.any_eq_false]
  intro alteration listed
  rw [stays alteration listed]
  exact Bool.false_ne_true

theorem Statement.worksOn_action {table : Path} {alteration : Alteration}
    (stays : alteration.renamesTable = false) :
    (alterTable table [alteration]).WorksOn (some table) :=
  worksOn_alterTable (List.forall_mem_singleton.mpr stays)

end Sql

/-- Whether the command renames the table. -/
def Command.isRename : Command → Bool
  | .rename => true
  | _ => false

/-- Whether a command addresses the table, if there is something for it to work on.  Only mysql
addresses the table of an index that is dropped or renamed; sqlite has no statement for comments,
for dropping a primary key and for dropping a foreign key; and in mysql the comment of a new table is
part of its creation. -/
def Command.addressesTable (dialect : Dialect) (creating : Bool) : Command → Bool
  | .comment => dialect = .postgres || dialect = .mysql && !creating
  | .dropIndex | .dropUnique | .dropFullText | .renameIndex => dialect = .mysql
  | .dropPrimary | .dropForeign => dialect != .sqlite
  | _ => true

namespace Compile

open Sql
open Sql.Statement (worksOn_alterTable worksOn_action)

section
variable {dialect : Dialect} {plan : Plan}

/-! ## The statements of a command -/

theorem worksOn_map {α : Type} {table? : Option Path} {list : List α} {part : α → Statement}
    (each : ∀ a, (part a).WorksOn table?) : ∀ statement ∈ list.map part, statement.WorksOn table? := by
  intro statement listed
  obtain ⟨a, _, rfl⟩ := List.mem_map.mp listed
  exact each a

theorem worksOn_columnComments (columns : List Column) :
    ∀ statement ∈ columnComments dialect plan columns,
      statement.WorksOn (some (tablePath plan)) := by
  intro statement listed
  obtain ⟨column, text, rfl⟩ := exists_of_mem_columnComments listed
  exact ⟨rfl, rfl, rfl⟩

theorem worksOn_definitionsOutput :
    ∀ statement ∈ definitionsOutput dialect plan, statement.WorksOn (some (tablePath plan)) := by
  intro statement listed
  rcases mem_definitionsOutput listed with ⟨index, rfl, ofTable⟩ | ⟨_, added, rfl⟩
  · exact ⟨congrArg some ofTable, rfl, rfl⟩
  · exact worksOn_action rfl

theorem worksOn_addColumnsOutput :
    ∀ statement ∈ addColumnsOutput dialect plan, statement.WorksOn (some (tablePath plan)) := by
  have additions : ∀ alteration ∈ columnAdditions dialect plan, alteration.renamesTable = false := by
    intro alteration listed
    obtain ⟨column, _, rfl⟩ := List.mem_map.mp listed
    rfl
  intro statement listed
  unfold addColumnsOutput at listed
  split at listed
  · obtain ⟨addition, member, rfl⟩ := List.mem_map.mp listed
    exact worksOn_action (additions addition member)
  · split at listed
    · cases listed
    · rcases List.mem_cons.mp listed with rfl | comment
      · refine worksOn_alterTable (List.forall_mem_append.mpr ⟨additions, ?_⟩)
        intro alteration listed
        obtain ⟨_, _, rfl⟩ := List.mem_map.mp listed
        rfl
      · exact worksOn_columnComments _ statement comment

theorem worksOn_changeColumn (column : Column) :
    (changeColumn plan column).WorksOn (some (tablePath plan)) := by
  apply worksOn_alterTable
  intro alteration listed
  simp only [List.mem_append, mem_only, List.mem_cons, List.not_mem_nil, or_false] at listed
  rcases listed with (rfl | rfl) | ⟨_, rfl⟩
  · rfl
  · split <;> rfl
  · split <;> rfl

theorem worksOn_changeColumnsOutput :
    ∀ statement ∈ changeColumnsOutput dialect plan, statement.WorksOn (some (tablePath plan)) := by
  cases dialect with
  | postgres =>
    exact List.forall_mem_append.mpr ⟨worksOn_map worksOn_changeColumn, worksOn_columnComments _⟩
  | mysql =>
    intro statement listed
    rw [changeColumnsOutput_mysql] at listed
    split at listed
    · cases listed
    · cases List.mem_singleton.mp listed
      apply worksOn_alterTable
      intro alteration listed
      obtain ⟨column, _, rfl⟩ := List.mem_map.mp listed
      rfl
  | sqlite => exact nofun

theorem worksOn_dropColumnsOutput :
    ∀ statement ∈ dropColumnsOutput dialect plan, statement.WorksOn (some (tablePath plan)) := by
  have together : (Statement.alterTable (tablePath plan)
      (plan.dropColumns.map .dropColumn)).WorksOn (some (tablePath plan)) := by
    apply worksOn_alterTable
    intro alteration listed
    obtain ⟨_, _, rfl⟩ := List.mem_map.mp listed
    rfl
  cases dialect with
  | sqlite => exact worksOn_map fun _ => worksOn_action rfl
  | postgres | mysql => exact List.forall_mem_singleton.mpr together

/-- The path of the table if the dialect names the table of an index that is dropped or renamed. -/
theorem worksOn_dropIndexes (names : List String) :
    ∀ statement ∈ names.map (dropIndex dialect plan),
      statement.WorksOn (if dialect = .mysql then some (tablePath plan) else none) := by
  apply worksOn_map
  intro name
  cases dialect with
  | mysql => exact worksOn_action rfl
  | postgres | sqlite => exact ⟨rfl, rfl, rfl⟩

/-- The table that a command addresses. -/
def commandTable? (dialect : Dialect) (plan : Plan) (asked : Command) : Option Path :=
  if asked.addressesTable dialect plan.creating then some (tablePath plan) else none

/-- A command that neither creates nor renames the table works on the table that it addresses. -/
theorem worksOn_commandOutput {asked : Command} (noCreation : asked.isCreate = false)
    (noRename : asked.isRename = false) :
    ∀ statement ∈ commandOutput dialect plan asked,
      statement.WorksOn (commandTable? dialect plan asked) := by
  cases asked with
  | create | createIfNotExists => cases noCreation
  | rename => cases noRename
  | add => exact List.forall_mem_append.mpr ⟨worksOn_addColumnsOutput, worksOn_definitionsOutput⟩
  | change => exact worksOn_changeColumnsOutput
  | drop | dropIfExists => exact List.forall_mem_singleton.mpr ⟨rfl, rfl, rfl⟩
  | dropColumn => exact worksOn_dropColumnsOutput
  | renameColumn => exact worksOn_map fun _ => worksOn_action rfl
  | dropIndex | dropUnique =>
    intro statement listed
    have works := worksOn_dropIndexes _ statement listed
    cases dialect <;> exact works
  | dropFullText =>
    cases dialect with
    | sqlite => exact nofun
    | postgres | mysql => exact worksOn_dropIndexes _
  | renameIndex =>
    cases dialect with
    | sqlite => exact nofun
    | postgres => exact worksOn_map fun _ => ⟨rfl, rfl, rfl⟩
    | mysql => exact worksOn_map fun _ => worksOn_action rfl
  | dropPrimary | dropForeign =>
    cases dialect with
    | sqlite => exact nofun
    | postgres | mysql => exact worksOn_map fun _ => worksOn_action rfl
  | comment =>
    cases dialect with
    | sqlite => exact nofun
    | postgres => exact worksOn_map fun _ => ⟨rfl, rfl, rfl⟩
    | mysql =>
      unfold commandTable? commandOutput tableCommentOutput
      cases plan.creating with
      | true => exact nofun
      | false => exact worksOn_map fun _ => worksOn_action rfl

variable (dialect plan) in
/-- The creation of the table is the first statement of its command, and all behind it works on the
table. -/
theorem exists_creation_of_isCreate {asked : Command} (creation : asked.isCreate = true) :
    ∃ made rest, commandOutput dialect plan asked = made :: rest ∧ made.createsTable = true ∧
      made.renamesTable = false ∧ made.table? = commandTable? dialect plan asked ∧
      ∀ statement ∈ rest, statement.WorksOn (commandTable? dialect plan asked) := by
  have addressed : commandTable? dialect plan asked = some (tablePath plan) := by
    cases asked with
    | create | createIfNotExists => rfl
    | _ => cases creation
  obtain ⟨ifNotExists, output⟩ := commandOutput_of_isCreate dialect plan creation
  rw [output, addressed]
  exact ⟨_, _, rfl, rfl, rfl, rfl,
    List.forall_mem_append.mpr ⟨worksOn_columnComments _, worksOn_definitionsOutput⟩⟩

variable (dialect plan) in
/-- The command that renames the table has one statement. -/
theorem exists_renamed_of_isRename {asked : Command} (rename : asked.isRename = true) :
    ∃ renamed, commandOutput dialect plan asked = [renamed] ∧ renamed.renamesTable = true ∧
      renamed.createsTable = false ∧ renamed.table? = commandTable? dialect plan asked := by
  cases asked with
  | rename => cases dialect <;> exact ⟨_, rfl, rfl, rfl, rfl⟩
  | _ => cases rename

theorem table?_commandOutput (asked : Command) :
    ∀ statement ∈ commandOutput dialect plan asked,
      statement.table? = commandTable? dialect plan asked := by
  intro statement listed
  cases creation : asked.isCreate with
  | true =>
    obtain ⟨made, rest, output, _, _, table, behind⟩ :=
      exists_creation_of_isCreate dialect plan creation
    rw [output] at listed
    rcases List.mem_cons.mp listed with rfl | later
    · exact table
    · exact (behind statement later).table
  | false =>
    cases rename : asked.isRename with
    | true =>
      obtain ⟨renamed, output, _, _, table⟩ := exists_renamed_of_isRename dialect plan rename
      rw [output] at listed
      cases List.mem_singleton.mp listed
      exact table
    | false => exact (worksOn_commandOutput creation rename statement listed).table

theorem createsTable_commandOutput (asked : Command) (other : asked.isCreate = false) :
    ∀ statement ∈ commandOutput dialect plan asked, statement.createsTable = false := by
  intro statement listed
  cases rename : asked.isRename with
  | true =>
    obtain ⟨renamed, output, _, noCreation, _⟩ := exists_renamed_of_isRename dialect plan rename
    rw [output] at listed
    cases List.mem_singleton.mp listed
    exact noCreation
  | false => exact (worksOn_commandOutput other rename statement listed).creates

theorem renamesTable_commandOutput (asked : Command) (other : asked.isRename = false) :
    ∀ statement ∈ commandOutput dialect plan asked, statement.renamesTable = false := by
  intro statement listed
  cases creation : asked.isCreate with
  | true =>
    obtain ⟨made, rest, output, _, noRename, _, behind⟩ :=
      exists_creation_of_isCreate dialect plan creation
    rw [output] at listed
    rcases List.mem_cons.mp listed with rfl | later
    · exact noRename
    · exact (behind statement later).renames
  | false => exact (worksOn_commandOutput creation other statement listed).renames

theorem map_ne_nil_of_filled {α β : Type} {list : List α} (filled : (!list.isEmpty) = true)
    (f : α → β) : list.map f ≠ [] := by
  simpa using filled

theorem map_toList_ne_nil {α β : Type} {value : Option α} (given : value.isSome = true)
    (f : α → β) : value.toList.map f ≠ [] := by
  obtain ⟨a, rfl⟩ := Option.isSome_iff_exists.mp given
  exact nofun

/-- A command that addresses the table and has something to work on gives out a statement. -/
theorem commandOutput_ne_nil {asked : Command}
    (addresses : asked.addressesTable dialect plan.creating = true)
    (works : plan.holdsWork asked = true) (noAddition : asked ≠ .add) (noChange : asked ≠ .change) :
    commandOutput dialect plan asked ≠ [] := by
  cases asked with
  | add => exact absurd rfl noAddition
  | change => exact absurd rfl noChange
  | create | createIfNotExists | drop | dropIfExists | rename => exact nofun
  | dropColumn =>
    cases dialect with
    | sqlite => exact map_ne_nil_of_filled works _
    | postgres | mysql => exact nofun
  | renameColumn => exact map_ne_nil_of_filled works _
  | dropIndex | dropUnique => exact map_ne_nil_of_filled works _
  | dropFullText | renameIndex =>
    cases dialect with
    | mysql => exact map_ne_nil_of_filled works _
    | postgres | sqlite => cases addresses
  | dropForeign =>
    cases dialect with
    | sqlite => cases addresses
    | postgres | mysql => exact map_ne_nil_of_filled works _
  | dropPrimary =>
    cases dialect with
    | sqlite => cases addresses
    | postgres | mysql => exact map_toList_ne_nil works _
  | comment =>
    cases dialect with
    | sqlite => cases addresses
    | postgres => exact map_toList_ne_nil works _
    | mysql =>
      have existing : plan.creating = false := by
        simpa [Command.addressesTable] using addresses
      unfold commandOutput tableCommentOutput
      rw [existing]
      exact map_toList_ne_nil works _

/-- The statements of some commands address the table exactly when one of the commands does, if each
has something to work on. -/
theorem silent_flatMap_iff {commands : List Command}
    (works : ∀ asked ∈ commands, plan.holdsWork asked = true ∧ asked ≠ .add ∧ asked ≠ .change) :
    (∀ statement ∈ commands.flatMap (commandOutput dialect plan), statement.table? = none) ↔
      ∀ asked ∈ commands, asked.addressesTable dialect plan.creating = false := by
  constructor
  · intro silent asked listed
    by_contra addresses
    rw [Bool.not_eq_false] at addresses
    obtain ⟨work, noAddition, noChange⟩ := works asked listed
    obtain ⟨statement, member⟩ :=
      List.exists_mem_of_ne_nil _ (commandOutput_ne_nil addresses work noAddition noChange)
    have addressed := table?_commandOutput asked statement member
    rw [silent statement (List.mem_flatMap.mpr ⟨asked, listed, member⟩), commandTable?,
      if_pos addresses] at addressed
    cases addressed
  · intro silent statement listed
    obtain ⟨asked, member, given⟩ := List.mem_flatMap.mp listed
    rw [table?_commandOutput asked statement given, commandTable?, silent asked member]
    rfl

end

end Compile

namespace Plan

open Compile
open Sql (Statement)

variable {dialect : Dialect} {plan : Plan}

/-- The commands behind that which renames the table are all asked for: those that are implied stand
in front. -/
theorem requested_of_mem_afterFirst (order : plan.AsksInOrder) {asked : Command}
    (listed : asked ∈ afterFirst Command.isRename plan.commands) : asked ∈ plan.requested := by
  have inRequested : asked ∈ afterFirst Command.isRename plan.requested := by
    cases creating : plan.creating with
    | true => rwa [commands_of_creating creating] at listed
    | false =>
      have implied : ∀ command ∈ only (!plan.changedColumns.isEmpty) Command.change ++
          only plan.hasAdditions Command.add, (!command.isRename) = true := by
        intro command member
        rcases List.mem_append.mp member with change | addition
        · rw [(mem_only.mp change).2]
          rfl
        · rw [(mem_only.mp addition).2]
          rfl
      rw [commands_of_existing order creating, ← List.append_assoc, afterFirst,
        List.dropWhile_append_of_pos implied] at listed
      exact listed
  exact (List.dropWhile_sublist _).mem (List.mem_of_mem_tail inRequested)

/-- Every statement addresses the table of the plan, or none. -/
theorem table?_output {statement : Statement} (listed : statement ∈ plan.output dialect) :
    ∀ named ∈ statement.table?, named = tablePath plan := by
  obtain ⟨asked, _, member⟩ := List.mem_flatMap.mp listed
  rw [table?_commandOutput asked statement member, commandTable?]
  intro named given
  split at given
  · cases given
    rfl
  · cases given

section
variable (order : plan.AsksInOrder) (works : plan.AsksForWork)
include order works

/-- The statements of some requested commands address the table exactly when one of the commands
does. -/
theorem silent_requested_iff {asked : List Command}
    (requested : ∀ command ∈ asked, command ∈ plan.requested) :
    (∀ statement ∈ asked.flatMap (commandOutput dialect plan), statement.table? = none) ↔
      ∀ command ∈ asked, command.addressesTable dialect plan.creating = false := by
  refine silent_flatMap_iff fun command listed => ?_
  have member := requested command listed
  refine ⟨works command member, ?_, ?_⟩
  · rintro rfl
    exact order.noAddition member
  · rintro rfl
    exact order.noChange member

/-- There is a creation, and what stands in front of it addresses the table as the commands in front
of the creating one do. -/
theorem silent_before_creation_iff (creating : plan.creating = true) :
    (∃ statement ∈ plan.output dialect, statement.createsTable = true) ∧
    ((∀ statement ∈ beforeFirst Statement.createsTable (plan.output dialect),
        statement.table? = none) ↔
      ∀ asked ∈ beforeFirst Command.isCreate plan.commands,
        asked.addressesTable dialect true = false) := by
  have creates (asked : Command) (kind : asked.isCreate = true) :
      ∃ made rest, commandOutput dialect plan asked = made :: rest ∧ made.createsTable = true := by
    obtain ⟨made, rest, output, creates, _⟩ := exists_creation_of_isCreate dialect plan kind
    exact ⟨made, rest, output, creates⟩
  have commands := commands_of_creating creating
  constructor
  · obtain ⟨creation, member, kind⟩ := List.any_eq_true.mp creating
    obtain ⟨made, rest, output, creates⟩ := creates creation kind
    refine ⟨made, List.mem_flatMap.mpr ⟨creation, commands ▸ member, ?_⟩, creates⟩
    rw [output]
    exact List.mem_cons_self
  · have requested : ∀ asked ∈ beforeFirst Command.isCreate plan.commands,
        asked ∈ plan.requested := by
      rw [commands]
      exact fun asked listed => (List.takeWhile_sublist _).mem listed
    rw [output, beforeFirst_flatMap createsTable_commandOutput creates,
      silent_requested_iff order works requested, creating]

/-- There is a statement that renames the table, and what stands behind it addresses the table as the
commands behind the renaming one do. -/
theorem silent_after_rename_iff (member : .rename ∈ plan.commands) :
    (∃ statement ∈ plan.output dialect, statement.renamesTable = true) ∧
    ((∀ statement ∈ afterFirst Statement.renamesTable (plan.output dialect),
        statement.table? = none) ↔
      ∀ asked ∈ afterFirst Command.isRename plan.commands,
        asked.addressesTable dialect plan.creating = false) := by
  have renames (asked : Command) (kind : asked.isRename = true) :
      ∃ renamed, commandOutput dialect plan asked = [renamed] ∧ renamed.renamesTable = true := by
    obtain ⟨renamed, output, renames, _⟩ := exists_renamed_of_isRename dialect plan kind
    exact ⟨renamed, output, renames⟩
  constructor
  · obtain ⟨renamed, output, renames⟩ := renames .rename rfl
    refine ⟨renamed, List.mem_flatMap.mpr ⟨.rename, member, ?_⟩, renames⟩
    rw [output]
    exact List.mem_singleton.mpr rfl
  · rw [output, afterFirst_flatMap renamesTable_commandOutput renames,
      silent_requested_iff order works fun asked => requested_of_mem_afterFirst order]

end

end Plan

end TablePlan

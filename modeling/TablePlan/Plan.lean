import TablePlan.Column
import TablePlan.ForeignKey
import TablePlan.Name.Convention
import TablePlan.Plan.Command

/-!
# Plans

A plan holds the work on one table: what to create, add and change, what to drop and rename, and
the commands asked for in the order of their first request.  Adding and changing are not asked
for; outside creation they follow from what the plan holds (`Plan.commands`).
-/

namespace TablePlan

/-- The work on one table.  `requested` are the commands asked for; the lists of drops and
renames hold what the command of that kind works on. -/
structure Plan where
  table : String
  newName : Option String := none
  engine : Option String := none
  charset : Option String := none
  collation : Option String := none
  comment : Option String := none
  columns : List Column := []
  indexes : List Index := []
  foreignKeys : List ForeignKey := []
  dropColumns : List String := []
  renameColumns : List (String × String) := []
  dropIndexes : List String := []
  dropUniques : List String := []
  dropFullTexts : List String := []
  dropForeigns : List String := []
  dropPrimary : Option String := none
  renameIndexes : List (String × String) := []
  requested : List Command := []
  deriving DecidableEq, Repr

namespace Plan

/-- Asks for a command; asking again changes nothing. -/
def request (plan : Plan) (command : Command) : Plan :=
  if command ∈ plan.requested then plan
  else { plan with requested := plan.requested ++ [command] }

/-- Whether the plan creates its table. -/
def creating (plan : Plan) : Bool :=
  plan.requested.any Command.isCreate

/-- Whether the plan creates its table unless it exists. -/
def ifNotExists (plan : Plan) : Bool :=
  plan.requested.contains .createIfNotExists

/-- The new columns. -/
def addedColumns (plan : Plan) : List Column :=
  plan.columns.filter fun column => !column.change

/-- The columns to be changed. -/
def changedColumns (plan : Plan) : List Column :=
  plan.columns.filter fun column => column.change

/-- Whether there is anything to add to an existing table. -/
def hasAdditions (plan : Plan) : Bool :=
  !plan.addedColumns.isEmpty || !plan.indexes.isEmpty || !plan.foreignKeys.isEmpty

/-- A command put in front of a list that needs it and lacks it. -/
def lead (needed : Bool) (command : Command) (commands : List Command) : List Command :=
  if needed && !commands.contains command then command :: commands else commands

/-- The commands to carry out.  An existing table is first changed, then added to, whether that
was asked for or not. -/
def commands (plan : Plan) : List Command :=
  if plan.creating then plan.requested
  else lead (!plan.changedColumns.isEmpty) .change (lead plan.hasAdditions .add plan.requested)

/-- The schema of the table, if its name carries one. -/
def schema? (plan : Plan) : Option String :=
  Name.schema? plan.table

/-- The name of an index of the plan: its own or the conventional one. -/
def indexName (plan : Plan) (index : Index) : String :=
  index.name.getD (Name.index plan.table index.kind index.columns)

/-- The name of a foreign key of the plan: its own or the conventional one. -/
def foreignKeyName (plan : Plan) (key : ForeignKey) : String :=
  key.name.getD (Name.foreignKey plan.table key.referencedTable)

/-- Whether the plan declares a primary key over a list of columns. -/
def declaresPrimary (plan : Plan) : Bool :=
  plan.indexes.any fun index => index.kind = .primary

@[simp] theorem requested_request (plan : Plan) (command : Command) :
    (plan.request command).requested =
      if command ∈ plan.requested then plan.requested else plan.requested ++ [command] := by
  unfold request
  split <;> rfl

theorem commands_of_creating {plan : Plan} (creating : plan.creating = true) :
    plan.commands = plan.requested :=
  if_pos creating

end Plan

end TablePlan

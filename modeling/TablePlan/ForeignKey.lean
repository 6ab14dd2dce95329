/-!
# Foreign keys
-/

namespace TablePlan

/-- What happens to the referring rows. -/
inductive ReferentialAction where
  | noAction
  | restrict
  | cascade
  | setNull
  | setDefault
  deriving DecidableEq, Repr

/-- The keywords of the action. -/
def ReferentialAction.keywords : ReferentialAction → String
  | .noAction => "NO ACTION"
  | .restrict => "RESTRICT"
  | .cascade => "CASCADE"
  | .setNull => "SET NULL"
  | .setDefault => "SET DEFAULT"

/-- A foreign key of one column.  A part not yet stated is the empty text; one without a name
gets the conventional name. -/
structure ForeignKey where
  column : String
  referencedColumn : String := ""
  referencedTable : String := ""
  onDelete : Option ReferentialAction := none
  onUpdate : Option ReferentialAction := none
  name : Option String := none
  deriving DecidableEq, Repr

/-- A property stated of a foreign key after its column. -/
inductive ForeignKeyModifier where
  | references (column : String)
  | on (table : String)
  | onDelete (action : ReferentialAction)
  | onUpdate (action : ReferentialAction)
  | named (name : String)
  deriving DecidableEq, Repr

namespace ForeignKeyModifier

/-- Deleting the referenced row deletes the referring ones. -/
abbrev cascadeOnDelete : ForeignKeyModifier := .onDelete .cascade

/-- Deleting the referenced row clears the referring columns. -/
abbrev nullOnDelete : ForeignKeyModifier := .onDelete .setNull

/-- The last word on a property counts. -/
def apply : ForeignKeyModifier → ForeignKey → ForeignKey
  | .references column, key => { key with referencedColumn := column }
  | .on table, key => { key with referencedTable := table }
  | .onDelete action, key => { key with onDelete := some action }
  | .onUpdate action, key => { key with onUpdate := some action }
  | .named name, key => { key with name := some name }

end ForeignKeyModifier

/-- A foreign key with its properties stated in order. -/
def ForeignKey.declare (column : String) (modifiers : List ForeignKeyModifier) : ForeignKey :=
  modifiers.foldl (fun key modifier => modifier.apply key) { column }

end TablePlan

/-!
# Commands

What a plan asks to be done to its table, one constructor a kind of work.
-/

namespace TablePlan

/-- A kind of work on the table. -/
inductive Command where
  | create
  | createIfNotExists
  | add
  | change
  | drop
  | dropIfExists
  | rename
  | dropColumn
  | renameColumn
  | dropIndex
  | dropUnique
  | dropFullText
  | dropPrimary
  | renameIndex
  | dropForeign
  | comment
  deriving DecidableEq, Repr

/-- Whether the command creates the table. -/
def Command.isCreate : Command → Bool
  | .create | .createIfNotExists => true
  | _ => false

end TablePlan

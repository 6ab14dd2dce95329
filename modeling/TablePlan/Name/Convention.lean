import TablePlan.Index
import TablePlan.Name

/-!
# Conventional names

The names that indexes and constraints get when none is given.  They are built from the table
name without its qualifier, so `app.users` and `users` lead to the same names.
-/

namespace TablePlan.Name

/-- The conventional name of a table's primary key. -/
def primaryKey (table : String) : String :=
  "pk_" ++ unqualified table

/-- The conventional name of an index; its columns do not enter into that of a primary key. -/
def index (table : String) (kind : IndexKind) (columns : List String) : String :=
  let named (tag : String) := tag ++ "_" ++ unqualified table ++ "_" ++ "_".intercalate columns
  match kind with
  | .index => named "idx"
  | .unique => named "uk"
  | .fullText => named "ft"
  | .primary => primaryKey table

/-- The conventional name of a foreign key. -/
def foreignKey (table referenced : String) : String :=
  "fk_" ++ unqualified table ++ "_" ++ unqualified referenced

end TablePlan.Name

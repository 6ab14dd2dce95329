import TablePlan.Compile.Error

/-!
# Why a session's work fails
-/

namespace TablePlan

/-- Why a request to a session fails.  A database error is what the database said. -/
inductive SessionError where
  | emptyTableName
  | malformedTableName (name : String)
  | schemaNotSupported (dialect : Dialect) (name : String)
  | compile (error : CompileError)
  | database (message : String)
  deriving DecidableEq, Repr

/-- What is said about a failure. -/
def SessionError.message : SessionError → String
  | .emptyTableName => "Table name must not be empty"
  | .malformedTableName name => "Malformed table name '" ++ name ++ "'"
  | .schemaNotSupported dialect name =>
    dialect.name ++ " does not support schema-qualified table '" ++ name ++ "'"
  | .compile error => "Compile error: " ++ error.message
  | .database message => "Database error: " ++ message

end TablePlan

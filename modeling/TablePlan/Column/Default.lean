import TablePlan.Decimal.Binary64

/-!
# Default values
-/

namespace TablePlan

/-- The value that a column takes when a row does not give one.  An expression is SQL text of the
caller's and is taken as it stands; a string is data. -/
inductive DefaultValue where
  | null
  | boolean (value : Bool)
  | integer (value : Int64)
  | float (value : Binary64)
  | string (value : String)
  | expression (sql : String)
  deriving DecidableEq, Repr

/-- Whether the value is a number that no SQL literal can denote. -/
def DefaultValue.isNonFinite : DefaultValue → Bool
  | .float value => !value.isFinite
  | _ => false

end TablePlan

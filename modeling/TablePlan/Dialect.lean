import TablePlan.Text.Blank

/-!
# Dialects

The three SQL dialects that a plan compiles to, and the identifiers they are asked for by.
-/

namespace TablePlan

/-- A database engine's dialect of SQL. -/
inductive Dialect where
  | postgres
  | mysql
  | sqlite
  deriving DecidableEq, Repr

namespace Dialect

/-- The canonical identifier. -/
def name : Dialect → String
  | .postgres => "postgres"
  | .mysql => "mysql"
  | .sqlite => "sqlite"

/-- Whether a table name may carry a schema. -/
def supportsSchemas : Dialect → Bool
  | .sqlite => false
  | _ => true

/-- The character that encloses an identifier: a backquote or a double quote. -/
def nameQuote : Dialect → Char
  | .mysql => '\x60'
  | _ => '"'

/-- The identifiers in use, in lower case. -/
def aliases : List (String × Dialect) :=
  [("postgres", .postgres), ("postgresql", .postgres), ("pg", .postgres), ("pgx", .postgres),
   ("mysql", .mysql), ("mariadb", .mysql), ("sqlite", .sqlite), ("sqlite3", .sqlite)]

/-- The dialect of an identifier; white space around it and the case of ASCII letters do not
count. -/
def parse? (text : String) : Option Dialect :=
  aliases.lookup ((Text.trim text).map Char.toLower)

/-- What is said about an identifier that names no dialect. -/
def unknownMessage (text : String) : String :=
  "Unknown dialect '" ++ text ++ "'"

end Dialect

end TablePlan

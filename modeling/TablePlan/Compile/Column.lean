import TablePlan.Compile.NativeType
import TablePlan.Plan
import TablePlan.Sql.Rendering

/-!
# Column definitions
-/

namespace TablePlan.Compile

open Sql (Piece Reference ColumnClause ColumnDefinition)

/-! ## Default values -/

/-- Numbers in SQL are written without an exponent, in as few digits as identify them. -/
def numberLayout : Decimal.Layout :=
  { isPositional := fun _ => true, pointZero := false, tie := .away }

/-- The text of a number that is a default. -/
def floatText (value : Binary64) : String :=
  if value.isNaN then "NaN"
  else if value.isFinite then String.ofList (numberLayout.text value)
  else if value.isNegative then "-inf" else "inf"

/-- The keywords that stand for a current time. -/
def currentTimeKeywords : List String :=
  ["CURRENT_TIMESTAMP", "CURRENT_DATE", "CURRENT_TIME", "LOCALTIMESTAMP", "LOCALTIME", "NOW()"]

/-- Whether a text is such a keyword, in upper or lower case. -/
def isCurrentTime (text : String) : Bool :=
  currentTimeKeywords.contains (text.map Char.toUpper)

/-- The literal of a truth value. -/
def booleanWord : Dialect → Bool → String
  | .postgres, true => "TRUE"
  | .postgres, false => "FALSE"
  | _, true => "1"
  | _, false => "0"

/-- A default value as it stands in a statement.  A text that names a current time is one if the
column holds times, and a literal like every other text if not. -/
def defaultPiece (dialect : Dialect) (type : ColumnType) : DefaultValue → Piece
  | .null => .bare "NULL"
  | .boolean value => .bare (booleanWord dialect value)
  | .integer value => .bare (String.ofList (Decimal.signedDigits value.toInt))
  | .float value => .bare (floatText value)
  | .expression sql => .verbatim sql
  | .string text => if type.isTemporal && isCurrentTime text then .bare text else .literal text

/-! ## Clauses -/

/-- A list of one element or none. -/
def only {α : Type} (wanted : Bool) (a : α) : List α :=
  if wanted then [a] else []

/-- What a foreign key points to. -/
def reference (key : ForeignKey) : Reference :=
  { table := Name.segments key.referencedTable
    column := key.referencedColumn
    onDelete := key.onDelete
    onUpdate := key.onUpdate }

/-- The check of an enumeration, for dialects without a native type for it. -/
def enumerationCheck? (column : Column) : Option ColumnClause :=
  match column.type with
  | .enumeration allowed => some (.oneOf column.name allowed)
  | _ => none

/-- The default clause. -/
def defaultClause (dialect : Dialect) (column : Column) : List ColumnClause :=
  column.defaultValue.toList.map fun value => .default (defaultPiece dialect column.type value)

/-- The clauses in postgres.  The sequence of a serial column is its default. -/
def postgresClauses (column : Column) : List ColumnClause :=
  (column.collation.toList.map fun name => .collate (.name name)) ++
  only (!column.nullable) .notNull ++
  (if column.autoIncrement then [] else defaultClause .postgres column) ++
  (enumerationCheck? column).toList

/-- The clauses in mysql.  A unique index without a name is part of the definition of a new
column. -/
def mysqlClauses (column : Column) : List ColumnClause :=
  only (column.unsigned && column.type.isNumeric) .unsigned ++
  (column.collation.toList.map fun name => .collate (.verbatim name)) ++
  [if column.nullable then .null else .notNull] ++
  defaultClause .mysql column ++
  only column.autoIncrement .autoIncrement ++
  only (column.unique && column.uniqueName.isNone && !column.change) .unique ++
  (column.comment.toList.map .comment)

/-- The clauses in sqlite.  An existing table can gain a foreign key only with a new column, so
the first one of that column is part of its definition. -/
def sqliteClauses (plan : Plan) (column : Column) : List ColumnClause :=
  only column.autoIncrement .primaryAutoincrement ++
  only (!column.nullable) .notNull ++
  defaultClause .sqlite column ++
  (enumerationCheck? column).toList ++
  (column.collation.toList.map fun name => .collate (.verbatim name)) ++
  (if plan.creating then []
   else (plan.foreignKeys.find? fun key => key.column = column.name).toList.map fun key =>
     .references (reference key))

/-- The definition of a column, for a creation or an addition. -/
def columnDefinition (dialect : Dialect) (plan : Plan) (column : Column) : ColumnDefinition :=
  { name := column.name
    type := nativeType dialect column
    clauses :=
      match dialect with
      | .postgres => postgresClauses column
      | .mysql => mysqlClauses column
      | .sqlite => sqliteClauses plan column }

end TablePlan.Compile

import TablePlan.Column
import TablePlan.Sql.Statement

/-!
# Native types

The type that each dialect has for a portable column type.
-/

namespace TablePlan.Compile

open Sql (NativeType TypeArgument)

/-- A type that takes the precision as its argument if one is stated. -/
def withPrecision (word : String) (precision : Option UInt8) (tail : String) : NativeType :=
  { word, arguments := precision.map fun digits => [.number digits.toNat], tail }

/-- A type that takes one number. -/
def sized (word : String) (size : Nat) : NativeType :=
  { word, arguments := some [.number size] }

/-- A type with places before and after the point. -/
def decimalType (precision scale : UInt8) : NativeType :=
  { word := "DECIMAL", arguments := some [.number precision.toNat, .number scale.toNat] }

/-- The postgres type of a column that does not count up by itself. -/
def postgresType : ColumnType → NativeType
  | .boolean => { word := "BOOLEAN" }
  | .char length => sized "CHAR" length.toNat
  | .string length => sized "VARCHAR" length.toNat
  | .tinyText | .text | .mediumText | .longText => { word := "TEXT" }
  | .tinyInteger | .smallInteger => { word := "SMALLINT" }
  | .mediumInteger | .integer | .year => { word := "INTEGER" }
  | .bigInteger => { word := "BIGINT" }
  | .decimal precision scale => decimalType precision scale
  | .float none => { word := "REAL" }
  | .float (some precision) => sized "FLOAT" precision.toNat
  | .double => { word := "DOUBLE PRECISION" }
  | .date => { word := "DATE" }
  | .time precision => withPrecision "TIME" precision " WITHOUT TIME ZONE"
  | .timeTz precision => withPrecision "TIME" precision " WITH TIME ZONE"
  | .dateTime precision | .timestamp precision =>
    withPrecision "TIMESTAMP" precision " WITHOUT TIME ZONE"
  | .dateTimeTz precision | .timestampTz precision =>
    withPrecision "TIMESTAMP" precision " WITH TIME ZONE"
  | .binary => { word := "BYTEA" }
  | .json => { word := "JSON" }
  | .jsonb => { word := "JSONB" }
  | .uuid => { word := "UUID" }
  | .enumeration _ => sized "VARCHAR" 255
  | .spatial kind srid =>
    { word := "GEOMETRY"
      arguments := some (.word kind.keyword :: srid.toList.map fun id => .number id.toNat) }

/-- The postgres type that brings its own sequence, for the whole-number types. -/
def serialType? : ColumnType → Option NativeType
  | .tinyInteger | .smallInteger => some { word := "SMALLSERIAL" }
  | .mediumInteger | .integer => some { word := "SERIAL" }
  | .bigInteger => some { word := "BIGSERIAL" }
  | _ => none

/-- The mysql type. -/
def mysqlType : ColumnType → NativeType
  | .boolean => sized "TINYINT" 1
  | .char length => sized "CHAR" length.toNat
  | .string length => sized "VARCHAR" length.toNat
  | .tinyText => { word := "TINYTEXT" }
  | .text => { word := "TEXT" }
  | .mediumText => { word := "MEDIUMTEXT" }
  | .longText => { word := "LONGTEXT" }
  | .tinyInteger => { word := "TINYINT" }
  | .smallInteger => { word := "SMALLINT" }
  | .mediumInteger => { word := "MEDIUMINT" }
  | .integer => { word := "INT" }
  | .bigInteger => { word := "BIGINT" }
  | .decimal precision scale => decimalType precision scale
  | .float precision => withPrecision "FLOAT" precision ""
  | .double => { word := "DOUBLE" }
  | .date => { word := "DATE" }
  | .time precision | .timeTz precision => withPrecision "TIME" precision ""
  | .dateTime precision | .dateTimeTz precision => withPrecision "DATETIME" precision ""
  | .timestamp precision | .timestampTz precision => withPrecision "TIMESTAMP" precision ""
  | .year => { word := "YEAR" }
  | .binary => { word := "BLOB" }
  | .json | .jsonb => { word := "JSON" }
  | .uuid => sized "CHAR" 36
  | .enumeration allowed => { word := "ENUM", arguments := some (allowed.map .literal) }
  | .spatial kind none => { word := kind.keyword }
  | .spatial kind (some srid) =>
    { word := kind.keyword, tail := " SRID " ++ String.ofList (Nat.toDigits 10 srid.toNat) }

/-- The sqlite type: one of five storage classes, or the shape of a spatial column. -/
def sqliteType : ColumnType → NativeType
  | .boolean | .tinyInteger | .smallInteger | .mediumInteger | .integer | .bigInteger | .year =>
    { word := "INTEGER" }
  | .char _ | .string _ | .tinyText | .text | .mediumText | .longText | .date | .time _ | .timeTz _
  | .dateTime _ | .dateTimeTz _ | .timestamp _ | .timestampTz _ | .json | .jsonb | .uuid
  | .enumeration _ => { word := "TEXT" }
  | .decimal .. => { word := "NUMERIC" }
  | .float _ | .double => { word := "REAL" }
  | .binary => { word := "BLOB" }
  | .spatial kind _ => { word := kind.keyword }

/-- The native type of a column. -/
def nativeType (dialect : Dialect) (column : Column) : NativeType :=
  match dialect with
  | .postgres =>
    let serial := if column.autoIncrement then serialType? column.type else none
    serial.getD (postgresType column.type)
  | .mysql => mysqlType column.type
  | .sqlite => sqliteType column.type

end TablePlan.Compile

import TablePlan.Column
import TablePlan.Json.Choice

/-!
# Columns as JSON
-/

namespace TablePlan

open Json (Codec Case Field Fields)

/-! ## Column types -/

/-- The name of a shape. -/
def SpatialKind.jsonName : SpatialKind → String
  | .geometry => "Geometry"
  | .point => "Point"
  | .lineString => "LineString"
  | .polygon => "Polygon"
  | .multiPoint => "MultiPoint"
  | .multiLineString => "MultiLineString"
  | .multiPolygon => "MultiPolygon"
  | .geometryCollection => "GeometryCollection"

/-- All shapes. -/
def SpatialKind.all : List SpatialKind :=
  [.geometry, .point, .lineString, .polygon, .multiPoint, .multiLineString, .multiPolygon,
   .geometryCollection]

/-- Shapes by their names. -/
def SpatialKind.codec : Codec SpatialKind :=
  Json.names jsonName all

namespace ColumnType

/-- The name of a type. -/
def jsonName : ColumnType → String
  | .boolean => "Boolean"
  | .char _ => "Char"
  | .string _ => "String"
  | .tinyText => "TinyText"
  | .text => "Text"
  | .mediumText => "MediumText"
  | .longText => "LongText"
  | .tinyInteger => "TinyInteger"
  | .smallInteger => "SmallInteger"
  | .mediumInteger => "MediumInteger"
  | .integer => "Integer"
  | .bigInteger => "BigInteger"
  | .decimal .. => "Decimal"
  | .float _ => "Float"
  | .double => "Double"
  | .date => "Date"
  | .time _ => "Time"
  | .timeTz _ => "TimeTz"
  | .dateTime _ => "DateTime"
  | .dateTimeTz _ => "DateTimeTz"
  | .timestamp _ => "Timestamp"
  | .timestampTz _ => "TimestampTz"
  | .year => "Year"
  | .binary => "Binary"
  | .json => "Json"
  | .jsonb => "Jsonb"
  | .uuid => "Uuid"
  | .enumeration _ => "Enum"
  | .spatial .. => "Spatial"

/-- The types without parameters. -/
def plain : List ColumnType :=
  [.boolean, .tinyText, .text, .mediumText, .longText, .tinyInteger, .smallInteger, .mediumInteger,
   .integer, .bigInteger, .double, .date, .year, .binary, .json, .jsonb, .uuid]

/-- The parameter of a text of limited length. -/
def lengthFields : Fields [UInt32] :=
  .cons { name := "length", codec := Json.word } .nil

/-- The parameters of a decimal number. -/
def decimalFields : Fields [UInt8, UInt8] :=
  .cons { name := "precision", codec := Json.byte } <|
  .cons { name := "scale", codec := Json.byte } .nil

/-- The parameter of a type whose precision may be left open. -/
def precisionFields : Fields [Option UInt8] :=
  .cons (.orNull "precision" Json.byte) .nil

/-- The parameter of an enumeration. -/
def enumerationFields : Fields [List String] :=
  .cons { name := "allowed", codec := Json.text.list } .nil

/-- The parameters of a spatial type. -/
def spatialFields : Fields [SpatialKind, Option UInt32] :=
  .cons { name := "kind", codec := SpatialKind.codec } <|
  .cons (.orNull "srid" Json.word) .nil

/-- The types with a precision that may be left open. -/
def precise : List (Option UInt8 → ColumnType) :=
  [.float, .time, .timeTz, .dateTime, .dateTimeTz, .timestamp, .timestampTz]

/-- The cases in which a type is read. -/
def cases : List (Case ColumnType) :=
  plain.map (fun type => .bare type.jsonName type) ++
  precise.map (fun make => .record (make none).jsonName precisionFields fun (p, _) => make p) ++
  [.record "Char" lengthFields fun (length, _) => .char length,
   .record "String" lengthFields fun (length, _) => .string length,
   .record "Decimal" decimalFields fun (precision, scale, _) => .decimal precision scale,
   .record "Enum" enumerationFields fun (allowed, _) => .enumeration allowed,
   .record "Spatial" spatialFields fun (kind, srid, _) => .spatial kind srid]

/-- A type, as its name or as an object of its parameters under its name. -/
def write (type : ColumnType) : List Char :=
  let holding {types : List Type} (fields : Fields types) (values : Json.Values types) :=
    Json.writeHolding type.jsonName ((Json.record fields).write values)
  match type with
  | .char length | .string length => holding lengthFields (length, ())
  | .decimal precision scale => holding decimalFields (precision, scale, ())
  | .float p | .time p | .timeTz p | .dateTime p | .dateTimeTz p | .timestamp p | .timestampTz p =>
    holding precisionFields (p, ())
  | .enumeration allowed => holding enumerationFields (allowed, ())
  | .spatial kind srid => holding spatialFields (kind, srid, ())
  | _ => Json.writeBare type.jsonName

/-- Types as JSON. -/
def codec : Codec ColumnType where
  read := Json.readChoice cases
  write := write

end ColumnType

/-! ## Default values -/

namespace DefaultValue

/-- The cases in which a default is read. -/
def cases : List (Case DefaultValue) :=
  [.bare "Null" .null, .holding "Boolean" Json.boolean .boolean,
   .holding "Integer" Json.signedWord .integer, .holding "Float" Json.float .float,
   .holding "String" Json.text .string, .holding "Expression" Json.text .expression]

/-- A default under the name of its kind. -/
def write : DefaultValue → List Char
  | .null => Json.writeBare "Null"
  | .boolean value => Json.writeHolding "Boolean" (Json.boolean.write value)
  | .integer value => Json.writeHolding "Integer" (Json.signedWord.write value)
  | .float value => Json.writeHolding "Float" (Json.float.write value)
  | .string value => Json.writeHolding "String" (Json.text.write value)
  | .expression sql => Json.writeHolding "Expression" (Json.text.write sql)

/-- Defaults as JSON. -/
def codec : Codec DefaultValue where
  read := Json.readChoice cases
  write := write

end DefaultValue

/-! ## Columns -/

namespace Column

/-- The fields of a column. -/
def fields : Fields
    [String, ColumnType, Bool, Option DefaultValue, Option String, Option String, Bool, Bool, Bool,
      Option String, Bool, Option String, Bool, Option String, Bool] :=
  .cons { name := "name", codec := Json.text } <|
  .cons { name := "column_type", codec := ColumnType.codec } <|
  .cons { name := "nullable", codec := Json.boolean } <|
  .cons (.orNull "default" DefaultValue.codec) <|
  .cons (.orNull "comment" Json.text) <|
  .cons (.orNull "collation" Json.text) <|
  .cons { name := "unsigned", codec := Json.boolean } <|
  .cons { name := "auto_increment", codec := Json.boolean } <|
  .cons { name := "primary", codec := Json.boolean } <|
  .cons (.orNull "primary_name" Json.text) <|
  .cons { name := "unique", codec := Json.boolean } <|
  .cons (.orNull "unique_name" Json.text) <|
  .cons { name := "index", codec := Json.boolean } <|
  .cons (.orNull "index_name" Json.text) <|
  .cons { name := "change", codec := Json.boolean } .nil

/-- Columns as JSON. -/
def codec : Codec Column :=
  (Json.record fields).map
    (fun (name, type, nullable, defaultValue, comment, collation, unsigned, autoIncrement, primary,
        primaryName, unique, uniqueName, index, indexName, change, _) =>
      { name, type, nullable, defaultValue, comment, collation, unsigned, autoIncrement, primary,
        primaryName, unique, uniqueName, index, indexName, change })
    (fun c =>
      (c.name, c.type, c.nullable, c.defaultValue, c.comment, c.collation, c.unsigned,
       c.autoIncrement, c.primary, c.primaryName, c.unique, c.uniqueName, c.index, c.indexName,
       c.change, ()))

end Column

end TablePlan

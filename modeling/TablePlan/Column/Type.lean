/-!
# Column types

The portable types of columns.  Each dialect spells them in its own way; this module knows only
what they are.
-/

namespace TablePlan

/-- The shape that a spatial column holds. -/
inductive SpatialKind where
  | geometry
  | point
  | lineString
  | polygon
  | multiPoint
  | multiLineString
  | multiPolygon
  | geometryCollection
  deriving DecidableEq, Repr

/-- The keyword of the shape. -/
def SpatialKind.keyword : SpatialKind → String
  | .geometry => "GEOMETRY"
  | .point => "POINT"
  | .lineString => "LINESTRING"
  | .polygon => "POLYGON"
  | .multiPoint => "MULTIPOINT"
  | .multiLineString => "MULTILINESTRING"
  | .multiPolygon => "MULTIPOLYGON"
  | .geometryCollection => "GEOMETRYCOLLECTION"

/-- The portable type of a column.  Times without a precision leave it to the database. -/
inductive ColumnType where
  | boolean
  | char (length : UInt32)
  | string (length : UInt32)
  | tinyText
  | text
  | mediumText
  | longText
  | tinyInteger
  | smallInteger
  | mediumInteger
  | integer
  | bigInteger
  | decimal (precision scale : UInt8)
  | float (precision : Option UInt8)
  | double
  | date
  | time (precision : Option UInt8)
  | timeTz (precision : Option UInt8)
  | dateTime (precision : Option UInt8)
  | dateTimeTz (precision : Option UInt8)
  | timestamp (precision : Option UInt8)
  | timestampTz (precision : Option UInt8)
  | year
  | binary
  | json
  | jsonb
  | uuid
  | enumeration (allowed : List String)
  | spatial (kind : SpatialKind) (srid : Option UInt32)
  deriving DecidableEq, Repr

namespace ColumnType

/-- Whether the type is one of the whole-number types. -/
def isInteger : ColumnType → Bool
  | .tinyInteger | .smallInteger | .mediumInteger | .integer | .bigInteger => true
  | _ => false

/-- Whether the type holds numbers. -/
def isNumeric : ColumnType → Bool
  | .decimal .. | .float .. | .double => true
  | type => type.isInteger

/-- Whether the type holds dates or times of day; a year is a number. -/
def isTemporal : ColumnType → Bool
  | .date | .time .. | .timeTz .. | .dateTime .. | .dateTimeTz .. | .timestamp ..
  | .timestampTz .. => true
  | _ => false

/-- The type with another precision.  Only times and `float` have one that may be left open; the
other types stay as they are. -/
def withPrecision (precision : UInt8) : ColumnType → ColumnType
  | .float _ => .float (some precision)
  | .time _ => .time (some precision)
  | .timeTz _ => .timeTz (some precision)
  | .dateTime _ => .dateTime (some precision)
  | .dateTimeTz _ => .dateTimeTz (some precision)
  | .timestamp _ => .timestamp (some precision)
  | .timestampTz _ => .timestampTz (some precision)
  | type => type

@[simp] theorem isTemporal_withPrecision (precision : UInt8) (type : ColumnType) :
    (type.withPrecision precision).isTemporal = type.isTemporal := by
  cases type <;> rfl

end ColumnType

end TablePlan

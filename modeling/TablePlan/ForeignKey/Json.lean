import TablePlan.ForeignKey
import TablePlan.Json.Choice

/-!
# Foreign keys as JSON
-/

namespace TablePlan

open Json (Codec Field Fields)

/-- The name of an action. -/
def ReferentialAction.jsonName : ReferentialAction → String
  | .noAction => "NoAction"
  | .restrict => "Restrict"
  | .cascade => "Cascade"
  | .setNull => "SetNull"
  | .setDefault => "SetDefault"

/-- Actions by their names. -/
def ReferentialAction.codec : Codec ReferentialAction :=
  Json.names jsonName [.noAction, .restrict, .cascade, .setNull, .setDefault]

namespace ForeignKey

/-- The fields of a foreign key. -/
def fields : Fields
    [String, String, String, Option ReferentialAction, Option ReferentialAction, Option String] :=
  .cons { name := "column", codec := Json.text } <|
  .cons { name := "references", codec := Json.text } <|
  .cons { name := "on", codec := Json.text } <|
  .cons (.orNull "on_delete" ReferentialAction.codec) <|
  .cons (.orNull "on_update" ReferentialAction.codec) <|
  .cons (.orNull "name" Json.text) .nil

/-- Foreign keys as JSON. -/
def codec : Codec ForeignKey :=
  (Json.record fields).map
    (fun (column, referencedColumn, referencedTable, onDelete, onUpdate, name, _) =>
      { column, referencedColumn, referencedTable, onDelete, onUpdate, name })
    (fun key =>
      (key.column, key.referencedColumn, key.referencedTable, key.onDelete, key.onUpdate, key.name,
       ()))

end ForeignKey

end TablePlan

import TablePlan.Index
import TablePlan.Json.Choice

/-!
# Indexes as JSON
-/

namespace TablePlan

open Json (Codec Field Fields)

/-- The name of a kind. -/
def IndexKind.jsonName : IndexKind → String
  | .index => "Index"
  | .unique => "Unique"
  | .primary => "Primary"
  | .fullText => "FullText"

/-- Kinds by their names. -/
def IndexKind.codec : Codec IndexKind :=
  Json.names jsonName [.index, .unique, .primary, .fullText]

/-- The name of a method. -/
def IndexMethod.jsonName : IndexMethod → String
  | .btree => "BTree"
  | .hash => "Hash"
  | .gist => "Gist"
  | .gin => "Gin"

/-- Methods by their names. -/
def IndexMethod.codec : Codec IndexMethod :=
  Json.names jsonName [.btree, .hash, .gist, .gin]

namespace Index

/-- The fields of an index. -/
def fields : Fields [IndexKind, List String, Option String, Option IndexMethod] :=
  .cons { name := "kind", codec := IndexKind.codec } <|
  .cons { name := "columns", codec := Json.text.list } <|
  .cons (.orNull "name" Json.text) <|
  .cons (.orNull "algorithm" IndexMethod.codec) .nil

/-- Indexes as JSON. -/
def codec : Codec Index :=
  (Json.record fields).map
    (fun (kind, columns, name, method, _) => { kind, columns, name, method })
    (fun index => (index.kind, index.columns, index.name, index.method, ()))

end Index

end TablePlan

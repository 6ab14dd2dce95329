import TablePlan.Column.Json
import TablePlan.ForeignKey.Json
import TablePlan.Index.Json
import TablePlan.Plan

/-!
# Plans as JSON

A plan is written with all its fields, and read without asking how it could have been built: its
commands may be any.
-/

namespace TablePlan

open Json (Codec Field Fields)

/-- The name of a command. -/
def Command.jsonName : Command → String
  | .create => "Create"
  | .createIfNotExists => "CreateIfNotExists"
  | .add => "Add"
  | .change => "Change"
  | .drop => "Drop"
  | .dropIfExists => "DropIfExists"
  | .rename => "Rename"
  | .dropColumn => "DropColumn"
  | .renameColumn => "RenameColumn"
  | .dropIndex => "DropIndex"
  | .dropUnique => "DropUnique"
  | .dropFullText => "DropFullText"
  | .dropPrimary => "DropPrimary"
  | .renameIndex => "RenameIndex"
  | .dropForeign => "DropForeign"
  | .comment => "Comment"

/-- All commands. -/
def Command.all : List Command :=
  [.create, .createIfNotExists, .add, .change, .drop, .dropIfExists, .rename, .dropColumn,
   .renameColumn, .dropIndex, .dropUnique, .dropFullText, .dropPrimary, .renameIndex, .dropForeign,
   .comment]

/-- Commands by their names. -/
def Command.codec : Codec Command :=
  Json.names jsonName all

namespace Plan

/-- Renames, as pairs of the old name and the new one. -/
def renamesCodec : Codec (List (String × String)) :=
  (Json.pair Json.text Json.text).list

/-- The fields of a plan. -/
def fields : Fields
    [String, Option String, Option String, Option String, Option String, Option String,
      List Column, List Index, List ForeignKey, List String, List (String × String), List String,
      List String, List String, List String, Option String, List (String × String),
      List Command] :=
  .cons { name := "table", codec := Json.text } <|
  .cons (.orNull "new_name" Json.text) <|
  .cons (.orNull "engine" Json.text) <|
  .cons (.orNull "charset" Json.text) <|
  .cons (.orNull "collation" Json.text) <|
  .cons (.orNull "comment" Json.text) <|
  .cons { name := "columns", codec := Column.codec.list } <|
  .cons { name := "indexes", codec := Index.codec.list } <|
  .cons { name := "foreign_keys", codec := ForeignKey.codec.list } <|
  .cons { name := "drop_columns", codec := Json.text.list } <|
  .cons { name := "rename_columns", codec := renamesCodec } <|
  .cons { name := "drop_indexes", codec := Json.text.list } <|
  .cons { name := "drop_uniques", codec := Json.text.list } <|
  .cons { name := "drop_full_texts", codec := Json.text.list } <|
  .cons { name := "drop_foreigns", codec := Json.text.list } <|
  .cons (.orNull "drop_primary" Json.text) <|
  .cons { name := "rename_indexes", codec := renamesCodec } <|
  .cons { name := "commands", codec := Command.codec.list } .nil

/-- Plans as JSON. -/
def codec : Codec Plan :=
  (Json.record fields).map
    (fun (table, newName, engine, charset, collation, comment, columns, indexes, foreignKeys,
        dropColumns, renameColumns, dropIndexes, dropUniques, dropFullTexts, dropForeigns,
        dropPrimary, renameIndexes, requested, _) =>
      { table, newName, engine, charset, collation, comment, columns, indexes, foreignKeys,
        dropColumns, renameColumns, dropIndexes, dropUniques, dropFullTexts, dropForeigns,
        dropPrimary, renameIndexes, requested })
    (fun plan =>
      (plan.table, plan.newName, plan.engine, plan.charset, plan.collation, plan.comment,
       plan.columns, plan.indexes, plan.foreignKeys, plan.dropColumns, plan.renameColumns,
       plan.dropIndexes, plan.dropUniques, plan.dropFullTexts, plan.dropForeigns, plan.dropPrimary,
       plan.renameIndexes, plan.requested, ()))

end Plan

end TablePlan

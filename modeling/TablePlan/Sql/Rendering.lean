import TablePlan.Decimal.Layout
import TablePlan.Sql.Statement

/-!
# What statements look like

The fragment of each tree.  Dialects differ in the trees that they use and in the quotes around
identifiers, not in how a tree is written.
-/

namespace TablePlan.Sql

open Fragment

/-- A path: its segments joined by dots. -/
def Path.fragment (path : Path) : Fragment :=
  join "." (path.map fun segment => [.name segment])

/-- A natural number. -/
def number (n : Nat) : Piece :=
  .bare (String.ofList (Decimal.digits n))

/-- An argument: a number, a word, or a literal. -/
def TypeArgument.piece : TypeArgument → Piece
  | .number n => Sql.number n
  | .word w => .bare w
  | .literal text => .literal text

/-- A type: its word, its arguments in parentheses, and what follows. -/
def NativeType.fragment (type : NativeType) : Fragment :=
  .bare type.word ::
    (match type.arguments with
      | none => []
      | some arguments => parens (commas (arguments.map fun argument => [argument.piece])))
    ++ [.bare type.tail]

/-- The referenced table and column and the actions that are stated. -/
def Reference.fragment (target : Reference) : Fragment :=
  let action (event : String) : Option ReferentialAction → Fragment
    | none => []
    | some action => [.bare (" ON " ++ event ++ " " ++ action.keywords)]
  .bare "REFERENCES " :: target.table.fragment ++ .bare " (" :: .name target.column :: .bare ")" ::
    action "DELETE" target.onDelete ++ action "UPDATE" target.onUpdate

/-- A check that a column holds one of the allowed values. -/
def oneOfFragment (column : String) (allowed : List String) : Fragment :=
  [.bare "CHECK (", .name column, .bare " IN "] ++ parens (literals allowed) ++ [.bare ")"]

/-- A clause, without the space in front of it. -/
def ColumnClause.fragment : ColumnClause → Fragment
  | .unsigned => [.bare "UNSIGNED"]
  | .collate collation => [.bare "COLLATE ", collation]
  | .null => [.bare "NULL"]
  | .notNull => [.bare "NOT NULL"]
  | .default value => [.bare "DEFAULT ", value]
  | .primaryAutoincrement => [.bare "PRIMARY KEY AUTOINCREMENT"]
  | .autoIncrement => [.bare "AUTO_INCREMENT"]
  | .unique => [.bare "UNIQUE"]
  | .comment text => [.bare "COMMENT ", .literal text]
  | .oneOf column allowed => oneOfFragment column allowed
  | .references target => target.fragment

/-- A column definition: the name, the type, and the clauses. -/
def ColumnDefinition.fragment (definition : ColumnDefinition) : Fragment :=
  .name definition.name :: .bare " " :: definition.type.fragment ++
    definition.clauses.flatMap fun clause => .bare " " :: clause.fragment

/-- A foreign key without its name. -/
def foreignKeyFragment (column : String) (target : Reference) : Fragment :=
  .bare "FOREIGN KEY (" :: .name column :: .bare ") " :: target.fragment

/-- A constraint, after its name if it has one. -/
def Constraint.fragment : Constraint → Fragment
  | .primaryKey name columns =>
    (match name with
      | none => []
      | some name => [.bare "CONSTRAINT ", .name name, .bare " "])
    ++ .bare "PRIMARY KEY " :: parens (names columns)
  | .foreignKey name column target =>
    .bare "CONSTRAINT " :: .name name :: .bare " " :: foreignKeyFragment column target

/-- The access method, if one is named. -/
def methodFragment : Option IndexMethod → Fragment
  | none => []
  | some method => [.bare (" USING " ++ method.keyword)]

/-- The words for a key declared inside a table. -/
def keyWords : IndexKind → String
  | .unique => "UNIQUE KEY "
  | .fullText => "FULLTEXT KEY "
  | .index | .primary => "INDEX "

/-- An element of a new table. -/
def TableElement.fragment : TableElement → Fragment
  | .column definition => definition.fragment
  | .constraint stated => stated.fragment
  | .key kind name columns method =>
    .bare (keyWords kind) :: .name name :: .bare " " :: parens (names columns) ++
      methodFragment method

/-- An option, with the space in front of it. -/
def TableOption.fragment : TableOption → Fragment
  | .engine name => [.bare " ENGINE = ", .verbatim name]
  | .charset name => [.bare " DEFAULT CHARACTER SET = ", .verbatim name]
  | .collation name => [.bare " COLLATE = ", .verbatim name]
  | .comment text => [.bare " COMMENT = ", .literal text]

/-- The columns of an index, or the text vectors of them, with the access method. -/
def IndexTarget.fragment : IndexTarget → Fragment
  | .columns methodBefore covered methodAfter =>
    methodFragment methodBefore ++ .bare " " :: parens (names covered) ++ methodFragment methodAfter
  | .textVectors covered =>
    .bare " USING GIN " :: parens (parens (join " || " (covered.map fun column =>
      [.bare "to_tsvector(", .literal "english", .bare ", ", .name column, .bare ")"])))

/-- The words that keep a creation from failing on what exists. -/
def ifNotExistsPiece (ifNotExists : Bool) : Piece :=
  .bare (if ifNotExists then "IF NOT EXISTS " else "")

/-- The creation of an index. -/
def IndexCreation.fragment (index : IndexCreation) : Fragment :=
  .bare "CREATE " :: .bare index.qualifier :: .bare "INDEX " ::
    ifNotExistsPiece index.ifNotExists :: .name index.name :: .bare " ON " ::
    index.table.fragment ++ index.target.fragment

/-- An action, as it stands behind the name of the table. -/
def Alteration.fragment : Alteration → Fragment
  | .addColumn definition => .bare "ADD COLUMN " :: definition.fragment
  | .modifyColumn definition => .bare "MODIFY COLUMN " :: definition.fragment
  | .setType column type collation =>
    .bare "ALTER COLUMN " :: .name column :: .bare " TYPE " :: type.fragment ++
      (match collation with
        | none => []
        | some collation => [.bare " COLLATE ", .name collation])
  | .setNotNull column => [.bare "ALTER COLUMN ", .name column, .bare " SET NOT NULL"]
  | .dropNotNull column => [.bare "ALTER COLUMN ", .name column, .bare " DROP NOT NULL"]
  | .setDefault column value => [.bare "ALTER COLUMN ", .name column, .bare " SET DEFAULT ", value]
  | .dropDefault column => [.bare "ALTER COLUMN ", .name column, .bare " DROP DEFAULT"]
  | .dropColumn column => [.bare "DROP COLUMN ", .name column]
  | .renameColumn old new => [.bare "RENAME COLUMN ", .name old, .bare " TO ", .name new]
  | .addConstraint constraint => .bare "ADD " :: constraint.fragment
  | .dropConstraint name => [.bare "DROP CONSTRAINT ", .name name]
  | .dropPrimaryKey => [.bare "DROP PRIMARY KEY"]
  | .dropForeignKey name => [.bare "DROP FOREIGN KEY ", .name name]
  | .dropIndex name => [.bare "DROP INDEX ", .name name]
  | .renameIndex old new => [.bare "RENAME INDEX ", .name old, .bare " TO ", .name new]
  | .renameTable new => [.bare "RENAME TO ", .name new]
  | .setComment text => [.bare "COMMENT = ", .literal text]

/-- A statement.  The elements of a table and the actions of an alteration are set apart by
commas. -/
def Statement.fragment : Statement → Fragment
  | .createTable ifNotExists table elements options =>
    .bare "CREATE TABLE " :: ifNotExistsPiece ifNotExists :: table.fragment ++ .bare " " ::
      parens (commas (elements.map TableElement.fragment)) ++
      options.flatMap TableOption.fragment
  | .alterTable table alterations =>
    .bare "ALTER TABLE " :: table.fragment ++ .bare " " ::
      commas (alterations.map Alteration.fragment)
  | .renameTable table new =>
    .bare "RENAME TABLE " :: table.fragment ++ .bare " TO " :: new.fragment
  | .dropTable ifExists table =>
    .bare "DROP TABLE " :: .bare (if ifExists then "IF EXISTS " else "") :: table.fragment
  | .createIndex index => index.fragment
  | .renameIndex index new =>
    .bare "ALTER INDEX " :: index.fragment ++ [.bare " RENAME TO ", .name new]
  | .dropIndex index => .bare "DROP INDEX " :: index.fragment
  | .commentOnTable table text =>
    .bare "COMMENT ON TABLE " :: table.fragment ++ [.bare " IS ", .literal text]
  | .commentOnColumn table column text =>
    .bare "COMMENT ON COLUMN " :: table.fragment ++
      [.bare ".", .name column, .bare " IS ", .literal text]

/-- The text of a statement in a dialect. -/
def Statement.text (dialect : Dialect) (statement : Statement) : String :=
  statement.fragment.text dialect

/-- A query; all its conditions have to hold. -/
def Query.fragment (query : Query) : Fragment :=
  .bare "SELECT 1 FROM " :: query.source ++ .bare " WHERE " ::
    join " AND " (query.conditions.map fun condition => [.bare (condition.1 ++ " = "), condition.2])

/-- The text of a query in a dialect. -/
def Query.text (dialect : Dialect) (query : Query) : String :=
  query.fragment.text dialect

end TablePlan.Sql

import TablePlan.Dialect
import TablePlan.Text.Quoted

/-!
# Pieces of SQL text

SQL text is put together from pieces that know whether they are quoted.  Names and literals are
the only places where data of the caller's stands in a statement, apart from the few texts that
the caller writes in SQL itself.
-/

namespace TablePlan.Sql

/-- A piece of SQL text. -/
inductive Piece where
  /-- Keywords, punctuation and numbers. -/
  | bare (text : String)
  /-- An identifier, enclosed in the dialect's quotes. -/
  | name (text : String)
  /-- A string literal, enclosed in single quotes. -/
  | literal (text : String)
  /-- SQL of the caller's, as it stands. -/
  | verbatim (text : String)
  deriving DecidableEq, Repr

/-- The characters of a piece when identifiers are enclosed in `quote`. -/
def Piece.chars (quote : Char) : Piece → List Char
  | .bare text | .verbatim text => text.toList
  | .name text => Text.Quoted.enclose quote text.toList
  | .literal text => Text.Quoted.enclose '\'' text.toList

/-- Pieces side by side. -/
abbrev Fragment := List Piece

namespace Fragment

/-- The characters of a fragment. -/
def chars (quote : Char) (fragment : Fragment) : List Char :=
  fragment.flatMap (Piece.chars quote)

/-- The text of a fragment in a dialect. -/
def text (dialect : Dialect) (fragment : Fragment) : String :=
  String.ofList (fragment.chars dialect.nameQuote)

/-- Fragments in a row with the same text between each two. -/
def join (separator : String) : List Fragment → Fragment
  | [] => []
  | [fragment] => fragment
  | fragment :: rest => fragment ++ .bare separator :: join separator rest

/-- Fragments in a row, set apart by commas. -/
abbrev commas (fragments : List Fragment) : Fragment :=
  join ", " fragments

/-- A fragment in parentheses. -/
def parens (fragment : Fragment) : Fragment :=
  .bare "(" :: fragment ++ [.bare ")"]

/-- Identifiers, set apart by commas. -/
def names (columns : List String) : Fragment :=
  commas (columns.map fun column => [.name column])

/-- String literals, set apart by commas. -/
def literals (values : List String) : Fragment :=
  commas (values.map fun value => [.literal value])

@[simp] theorem chars_nil (quote : Char) : chars quote [] = [] := rfl

@[simp] theorem chars_cons (quote : Char) (piece : Piece) (rest : Fragment) :
    chars quote (piece :: rest) = piece.chars quote ++ chars quote rest := by
  simp [chars]

@[simp] theorem chars_append (quote : Char) (first second : Fragment) :
    chars quote (first ++ second) = chars quote first ++ chars quote second := by
  simp [chars]

end Fragment

end TablePlan.Sql

import Mathlib.Data.List.Basic
import TablePlan.Proofs.Plain

/-!
# What a reader finds in a text

A text that is scanned falls into what stands outside quotes and the tokens in quotes: identifiers in
the quotes of the dialect, literals in single ones.  Main statement: a reader finds in the text of a
fragment the identifiers and the literals that it was put together from, in order, and around them the
words of its template (`read?_text`).
-/

namespace TablePlan.Sql

/-! ## Readings -/

/-- What a reader finds in a text: what stands outside quotes, with a `#` in the place of each
identifier and a `?` in the place of each literal, and the identifiers and the literals in order. -/
structure Reading where
  template : String
  identifiers : List String
  literals : List String
  deriving DecidableEq, Repr

namespace Token

/-- What stands for a token in a template. -/
def mark : Token → Char
  | .bare c => c
  | .quoted quote _ => if quote = '\'' then '?' else '#'

def identifier? : Token → Option String
  | .bare _ => none
  | .quoted quote text => if quote = '\'' then none else some (String.ofList text)

def literal? : Token → Option String
  | .bare _ => none
  | .quoted quote text => if quote = '\'' then some (String.ofList text) else none

end Token

/-- Reads a text; `none` when it ends inside quotes. -/
def read? (nameQuote : Char) (text : String) : Option Reading :=
  (scan? nameQuote text.toList).map fun tokens =>
    { template := String.ofList (tokens.map Token.mark)
      identifiers := tokens.filterMap Token.identifier?
      literals := tokens.filterMap Token.literal? }

/-! ## The reading of a fragment -/

namespace Piece

def template : Piece → List Char
  | .bare text | .verbatim text => text.toList
  | .name _ => ['#']
  | .literal _ => ['?']

def identifier? : Piece → Option String
  | .name text => some text
  | .bare _ | .literal _ | .verbatim _ => none

def literal? : Piece → Option String
  | .literal text => some text
  | .bare _ | .name _ | .verbatim _ => none

end Piece

namespace Fragment

/-- The identifiers of a fragment, in order. -/
def identifiers (fragment : Fragment) : List String :=
  fragment.filterMap Piece.identifier?

/-- The literals of a fragment, in order. -/
def literalValues (fragment : Fragment) : List String :=
  fragment.filterMap Piece.literal?

/-- What a fragment is meant to be read as. -/
def reading (fragment : Fragment) : Reading :=
  { template := String.ofList (fragment.flatMap Piece.template)
    identifiers := fragment.identifiers
    literals := fragment.literalValues }

end Fragment

variable {dialect : Dialect}

theorem nameQuote_ne (dialect : Dialect) : dialect.nameQuote ≠ '\'' := by
  cases dialect <;> decide

/-- The tokens of a piece have its template, its identifier and its literal. -/
theorem Piece.reading_tokens (piece : Piece) :
    (piece.tokens dialect.nameQuote).map Token.mark = piece.template ∧
      (piece.tokens dialect.nameQuote).filterMap Token.identifier? = piece.identifier?.toList ∧
      (piece.tokens dialect.nameQuote).filterMap Token.literal? = piece.literal?.toList := by
  have apart := nameQuote_ne dialect
  have unquoted (text : List Char) : (text.map Token.bare).map Token.mark = text ∧
      (text.map Token.bare).filterMap Token.identifier? = [] ∧
      (text.map Token.bare).filterMap Token.literal? = [] := by
    refine ⟨?_, ?_, ?_⟩
    · rw [List.map_map]
      exact List.map_id text
    · exact List.filterMap_eq_nil_iff.mpr (List.forall_mem_map.mpr fun _ _ => rfl)
    · exact List.filterMap_eq_nil_iff.mpr (List.forall_mem_map.mpr fun _ _ => rfl)
  cases piece with
  | bare text | verbatim text => exact unquoted text.toList
  | name text =>
    simp [tokens, template, identifier?, literal?, Token.mark, Token.identifier?, Token.literal?,
      apart]
  | literal text =>
    simp [tokens, template, identifier?, literal?, Token.mark, Token.identifier?, Token.literal?]

/-- A reader finds what a fragment was put together from. -/
theorem read?_text {fragment : Fragment} (plain : fragment.IsPlain) (spaced : fragment.IsSpaced) :
    read? dialect.nameQuote (fragment.text dialect) = some fragment.reading := by
  have found : (fragment.tokens dialect.nameQuote).map Token.mark =
        fragment.flatMap Piece.template ∧
      (fragment.tokens dialect.nameQuote).filterMap Token.identifier? = fragment.identifiers ∧
      (fragment.tokens dialect.nameQuote).filterMap Token.literal? = fragment.literalValues := by
    unfold Fragment.tokens Fragment.identifiers Fragment.literalValues
    rw [List.map_flatMap, List.filterMap_flatMap, List.filterMap_flatMap]
    simp only [(Piece.reading_tokens _).1, (Piece.reading_tokens _).2.1,
      (Piece.reading_tokens _).2.2, List.filterMap_eq_flatMap_toList, and_self]
  rw [read?, Fragment.text, String.toList_ofList, Fragment.scan?_chars plain spaced, Option.map_some,
    found.1, found.2.1, found.2.2]
  rfl

/-! ## The identifiers of trees -/

@[simp] theorem Piece.identifier?_bare (text : String) : (Piece.bare text).identifier? = none := rfl

@[simp] theorem Piece.identifier?_name (text : String) : (Piece.name text).identifier? = some text :=
  rfl

@[simp] theorem Piece.identifier?_literal (text : String) : (Piece.literal text).identifier? = none :=
  rfl

@[simp] theorem Piece.identifier?_verbatim (text : String) :
    (Piece.verbatim text).identifier? = none := rfl

namespace Fragment

@[simp] theorem identifiers_nil : identifiers [] = [] := rfl

@[simp] theorem identifiers_cons (piece : Piece) (rest : Fragment) :
    identifiers (piece :: rest) = piece.identifier?.toList ++ identifiers rest := by
  unfold identifiers
  cases given : piece.identifier? with
  | none => exact List.filterMap_cons_none given
  | some => exact List.filterMap_cons_some given

@[simp] theorem identifiers_append (first second : Fragment) :
    identifiers (first ++ second) = identifiers first ++ identifiers second :=
  List.filterMap_append

@[simp] theorem identifiers_flatMap {α : Type} (list : List α) (part : α → Fragment) :
    identifiers (list.flatMap part) = list.flatMap fun a => identifiers (part a) :=
  List.filterMap_flatMap

/-- What stands between two fragments is neither an identifier nor a literal. -/
theorem filterMap_join {α : Type} {found : Piece → Option α} (silent : ∀ text, found (.bare text) = none)
    (separator : String) (fragments : List Fragment) :
    (join separator fragments).filterMap found = fragments.flatMap (List.filterMap found) := by
  induction fragments with
  | nil => rfl
  | cons fragment rest ih =>
    cases rest with
    | nil => simp [join]
    | cons => simpa [join, silent] using ih

@[simp] theorem identifiers_join (separator : String) (fragments : List Fragment) :
    identifiers (join separator fragments) = fragments.flatMap identifiers :=
  filterMap_join (fun _ => rfl) separator fragments

@[simp] theorem identifiers_parens (fragment : Fragment) :
    identifiers (parens fragment) = identifiers fragment := by
  simp [parens]

@[simp] theorem identifiers_names (columns : List String) : identifiers (names columns) = columns := by
  simp [names, List.flatMap_map]

@[simp] theorem identifiers_literals (values : List String) : identifiers (literals values) = [] := by
  simp [literals]

@[simp] theorem literalValues_nil : literalValues [] = [] := rfl

@[simp] theorem literalValues_cons (piece : Piece) (rest : Fragment) :
    literalValues (piece :: rest) = piece.literal?.toList ++ literalValues rest := by
  unfold literalValues
  cases given : piece.literal? with
  | none => exact List.filterMap_cons_none given
  | some => exact List.filterMap_cons_some given

@[simp] theorem literalValues_append (first second : Fragment) :
    literalValues (first ++ second) = literalValues first ++ literalValues second :=
  List.filterMap_append

@[simp] theorem literalValues_literals (values : List String) :
    literalValues (literals values) = values := by
  rw [literals, literalValues, commas, filterMap_join fun _ => rfl, List.flatMap_map]
  simp [Piece.literal?]

end Fragment

open Fragment (identifiers)

@[simp] theorem Path.identifiers_fragment (path : Path) : identifiers path.fragment = path := by
  simp [fragment, List.flatMap_map]

@[simp] theorem NativeType.identifiers_fragment (type : NativeType) :
    identifiers type.fragment = [] := by
  have arguments (listed : List TypeArgument) :
      identifiers (.commas (listed.map fun argument => [argument.piece])) = [] := by
    rw [Fragment.identifiers_join, List.flatMap_map, List.flatMap_eq_nil_iff]
    intro argument _
    cases argument <;> rfl
  rcases type with ⟨word, _ | listed, tail⟩ <;> simp [fragment, arguments]

@[simp] theorem Reference.identifiers_fragment (target : Reference) :
    identifiers target.fragment = target.table ++ [target.column] := by
  rcases target with ⟨table, column, _ | delete, _ | update⟩ <;> simp [fragment]

/-- The identifiers that a clause brings. -/
def ColumnClause.identifiers : ColumnClause → List String
  | .collate piece | .default piece => piece.identifier?.toList
  | .oneOf column _ => [column]
  | .references target => target.table ++ [target.column]
  | _ => []

@[simp] theorem ColumnClause.identifiers_fragment (clause : ColumnClause) :
    Fragment.identifiers clause.fragment = clause.identifiers := by
  cases clause <;> simp [fragment, ColumnClause.identifiers, oneOfFragment]

@[simp] theorem ColumnDefinition.identifiers_fragment (definition : ColumnDefinition) :
    identifiers definition.fragment =
      definition.name :: definition.clauses.flatMap ColumnClause.identifiers := by
  simp [fragment]

/-- The identifiers of a constraint. -/
def Constraint.identifiers : Constraint → List String
  | .primaryKey name columns => name.toList ++ columns
  | .foreignKey name column target => name :: column :: target.table ++ [target.column]

@[simp] theorem Constraint.identifiers_fragment (constraint : Constraint) :
    Fragment.identifiers constraint.fragment = constraint.identifiers := by
  rcases constraint with ⟨_ | name, columns⟩ | ⟨name, column, target⟩ <;>
    simp [fragment, Constraint.identifiers, foreignKeyFragment]

@[simp] theorem identifiers_methodFragment (method : Option IndexMethod) :
    identifiers (methodFragment method) = [] := by
  cases method <;> rfl

/-- The identifiers of an element. -/
def TableElement.identifiers : TableElement → List String
  | .column definition => definition.name :: definition.clauses.flatMap ColumnClause.identifiers
  | .constraint stated => stated.identifiers
  | .key _ name columns _ => name :: columns

@[simp] theorem TableElement.identifiers_fragment (element : TableElement) :
    Fragment.identifiers element.fragment = element.identifiers := by
  cases element <;> simp [fragment, TableElement.identifiers]

@[simp] theorem TableOption.identifiers_fragment (option : TableOption) :
    identifiers option.fragment = [] := by
  cases option <;> simp [fragment]

/-- The columns that an index covers. -/
def IndexTarget.covered : IndexTarget → List String
  | .columns _ covered _ | .textVectors covered => covered

@[simp] theorem IndexTarget.identifiers_fragment (target : IndexTarget) :
    identifiers target.fragment = target.covered := by
  cases target <;> simp [fragment, covered, List.flatMap_map]

/-- The identifiers of an action. -/
def Alteration.identifiers : Alteration → List String
  | .addColumn definition | .modifyColumn definition =>
    definition.name :: definition.clauses.flatMap ColumnClause.identifiers
  | .setType column _ collation => column :: collation.toList
  | .setDefault column value => column :: value.identifier?.toList
  | .setNotNull column | .dropNotNull column | .dropDefault column | .dropColumn column => [column]
  | .addConstraint constraint => constraint.identifiers
  | .dropConstraint name | .dropForeignKey name | .dropIndex name | .renameTable name => [name]
  | .renameColumn old new | .renameIndex old new => [old, new]
  | .dropPrimaryKey | .setComment _ => []

@[simp] theorem Alteration.identifiers_fragment (alteration : Alteration) :
    Fragment.identifiers alteration.fragment = alteration.identifiers := by
  cases alteration with
  | setType column type collation => cases collation <;> simp [fragment, Alteration.identifiers]
  | _ => simp [fragment, Alteration.identifiers]

/-- The identifiers of a statement, in order. -/
def Statement.identifiers : Statement → List String
  | .createTable _ table elements _ => table ++ elements.flatMap TableElement.identifiers
  | .alterTable table alterations => table ++ alterations.flatMap Alteration.identifiers
  | .renameTable table new => table ++ new
  | .dropTable _ table | .commentOnTable table _ => table
  | .createIndex index => index.name :: index.table ++ index.target.covered
  | .renameIndex index new => index ++ [new]
  | .dropIndex index => index
  | .commentOnColumn table column _ => table ++ [column]

@[simp] theorem Statement.identifiers_fragment (statement : Statement) :
    Fragment.identifiers statement.fragment = statement.identifiers := by
  cases statement <;>
    simp [fragment, Statement.identifiers, IndexCreation.fragment, ifNotExistsPiece, List.flatMap_map]

/-- A reader finds the identifiers of a plain statement in its text. -/
theorem read?_statement {statement : Statement} (plain : statement.IsPlain) :
    (read? dialect.nameQuote (statement.text dialect)).map Reading.identifiers =
      some statement.identifiers := by
  rw [Statement.text, read?_text (Statement.isPlain_fragment plain)
    (Statement.isSpaced_fragment statement), Option.map_some, Fragment.reading,
    Statement.identifiers_fragment]

end TablePlan.Sql

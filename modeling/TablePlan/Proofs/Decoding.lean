import Mathlib.Data.List.Basic
import TablePlan.Compile.Column
import TablePlan.Proofs.Scan

/-!
# Decoding quoted forms

Names of tables, lists of columns and the values of an enumeration are written as quoted tokens with a
fixed text between each two.  Readers for them take one token after the other; dots, commas and quotes
inside a token do not mislead them, since a token ends only at a quote that is not written twice.  Main
statement: every quoted form reads back as what it was written from, whatever stands behind it, so no
two tables, column lists or lists of values are written alike (`quotedForms_decode`).
-/

namespace TablePlan.Sql

open Text (Quoted.enclose Quoted.readInside Quoted.read? Quoted.read?_enclose_append)
open Fragment (join chars chars_cons)

/-! ## Readers -/

/-- Reads a fixed word; what follows it is left. -/
def readWord? (word : String) (text : List Char) : Option (List Char) :=
  if word.toList <+: text then some (text.drop word.toList.length) else none

/-- Reads a token in quotes. -/
def readToken? (quote : Char) (text : List Char) : Option (String × List Char) :=
  (Quoted.read? quote text).map fun (token, rest) => (String.ofList token, rest)

theorem length_lt_of_readToken? {quote : Char} {text rest : List Char} {token : String}
    (read : readToken? quote text = some (token, rest)) : rest.length < text.length := by
  obtain ⟨⟨inside, after⟩, found, same⟩ := Option.map_eq_some_iff.mp read
  cases same
  cases text with
  | nil => cases found
  | cons c others =>
    rw [Quoted.read?] at found
    split at found
    · exact Nat.lt_succ_of_lt (length_lt_of_readInside found)
    · cases found

/-- Reads tokens one after the other as long as the separator stands behind the last one. -/
def readTokens? (quote : Char) (separator : String) (text : List Char) :
    Option (List String × List Char) :=
  match _read : readToken? quote text with
  | none => none
  | some (token, rest) =>
    if separator.toList <+: rest then
      (readTokens? quote separator (rest.drop separator.toList.length)).map
        fun (tokens, rest) => (token :: tokens, rest)
    else some ([token], rest)
termination_by text.length
decreasing_by
  have shorter := length_lt_of_readToken? _read
  rw [List.length_drop]
  omega

/-- Reads a list of tokens, which is empty if no token stands at the front. -/
def readList? (quote : Char) (separator : String) (text : List Char) :
    Option (List String × List Char) :=
  if text.head? = some quote then readTokens? quote separator text else some ([], text)

/-- Reads the name of a table: its segments, joined by dots. -/
def readTable? (dialect : Dialect) (text : List Char) : Option (String × List Char) :=
  (readTokens? dialect.nameQuote "." text).map
    fun (segments, rest) => (".".intercalate segments, rest)

/-- Reads a list of columns. -/
def readColumns? (dialect : Dialect) (text : List Char) : Option (List String × List Char) :=
  readList? dialect.nameQuote ", " text

/-- Reads the values of an enumeration as a native type. -/
def readEnumeration? (text : List Char) : Option (List String × List Char) := do
  let text ← readWord? "ENUM(" text
  let (allowed, text) ← readList? '\'' ", " text
  let text ← readWord? ")" text
  return (allowed, text)

/-- Reads the check of an enumeration: its column, and the allowed values. -/
def readCheck? (dialect : Dialect) (text : List Char) :
    Option ((String × List String) × List Char) := do
  let text ← readWord? "CHECK (" text
  let (column, text) ← readToken? dialect.nameQuote text
  let text ← readWord? " IN (" text
  let (allowed, text) ← readList? '\'' ", " text
  let text ← readWord? "))" text
  return ((column, allowed), text)

/-! ## Tokens and words -/

theorem readWord?_append (word : String) (rest : List Char) :
    readWord? word (word.toList ++ rest) = some rest := by
  rw [readWord?, if_pos (List.prefix_append ..), List.drop_left]

theorem readToken?_enclose_append {quote : Char} (text : String) {rest : List Char}
    (free : rest.head? ≠ some quote) :
    readToken? quote (Quoted.enclose quote text.toList ++ rest) = some (text, rest) := by
  rw [readToken?, Quoted.read?_enclose_append quote _ rest free]
  exact congrArg (fun token => some (token, rest)) String.ofList_toList

section
variable {quote : Char} {separator : String} {text rest : List Char} {token : String}
  (read : readToken? quote text = some (token, rest))
include read

theorem readTokens?_of_separator (continues : separator.toList <+: rest) :
    readTokens? quote separator text =
      (readTokens? quote separator (rest.drop separator.toList.length)).map
        fun (tokens, rest) => (token :: tokens, rest) := by
  rw [readTokens?]
  split
  · next none => simp [read] at none
  · next found =>
    cases read.symm.trans found
    exact if_pos continues

theorem readTokens?_of_end (ends : ¬ separator.toList <+: rest) :
    readTokens? quote separator text = some ([token], rest) := by
  rw [readTokens?]
  split
  · next none => simp [read] at none
  · next found =>
    cases read.symm.trans found
    exact if_neg ends

end

/-! ## Lists of tokens -/

section
variable {nameQuote quote : Char} {piece : String → Piece} {separator : String}
  (written : ∀ text, (piece text).chars nameQuote = Quoted.enclose quote text.toList)
include written

theorem chars_singleton (text : String) :
    chars nameQuote [piece text] = Quoted.enclose quote text.toList := by
  rw [chars_cons, written, Fragment.chars_nil, List.append_nil]

theorem chars_join_cons_cons (first second : String) (others : List String) :
    chars nameQuote (join separator ((first :: second :: others).map fun text => [piece text])) =
      Quoted.enclose quote first.toList ++ (separator.toList ++
        chars nameQuote (join separator ((second :: others).map fun text => [piece text]))) := by
  rw [List.map_cons, List.map_cons, join, List.cons_append, List.nil_append, chars_cons, chars_cons,
    written]
  · rfl
  · exact List.cons_ne_nil _ _

/-- A list that is not empty begins with the quote of its first token. -/
theorem head?_chars_join (first : String) (others : List String) (rest : List Char) :
    (chars nameQuote (join separator ((first :: others).map fun text => [piece text])) ++
      rest).head? = some quote := by
  cases others with
  | nil =>
    rw [List.map_singleton, join, chars_singleton written]
    rfl
  | cons second others =>
    rw [chars_join_cons_cons written]
    rfl

variable {rest : List Char} (visible : ∀ rest, (separator.toList ++ rest).head? ≠ some quote)
  (free : rest.head? ≠ some quote) (ends : ¬ separator.toList <+: rest)
include visible free ends

theorem readTokens?_join (first : String) (others : List String) :
    readTokens? quote separator
        (chars nameQuote (join separator ((first :: others).map fun text => [piece text])) ++ rest) =
      some (first :: others, rest) := by
  induction others generalizing first with
  | nil =>
    rw [List.map_singleton, join, chars_singleton written]
    exact readTokens?_of_end (readToken?_enclose_append first free) ends
  | cons second others ih =>
    rw [chars_join_cons_cons written, List.append_assoc, List.append_assoc]
    have read := readToken?_enclose_append first (visible
      (chars nameQuote (join separator ((second :: others).map fun text => [piece text])) ++ rest))
    rw [readTokens?_of_separator read (List.prefix_append ..), List.drop_left, ih second,
      Option.map_some]

theorem readList?_join (texts : List String) :
    readList? quote separator
        (chars nameQuote (join separator (texts.map fun text => [piece text])) ++ rest) =
      some (texts, rest) := by
  cases texts with
  | nil => exact if_neg free
  | cons first others =>
    rw [readList?, if_pos (head?_chars_join written first others rest)]
    exact readTokens?_join written visible free ends first others

end

theorem head?_comma_append_ne {quote : Char} (other : ',' ≠ quote) (rest : List Char) :
    (", ".toList ++ rest).head? ≠ some quote :=
  fun same => other (Option.some.inj same)

/-- A closing parenthesis ends a list of literals. -/
theorem readList?_literals (values : List String) (rest : List Char) (nameQuote : Char) :
    readList? '\'' ", " (chars nameQuote (Fragment.literals values) ++ ')' :: rest) =
      some (values, ')' :: rest) := by
  have ends : ¬ ", ".toList <+: ')' :: rest := by
    rw [show ", ".toList = [',', ' '] from rfl, List.cons_prefix_cons]
    exact fun same => absurd same.1 (by decide)
  exact readList?_join (fun _ => rfl) (head?_comma_append_ne (by decide)) (by simp) ends values

/-! ## Forms -/

section
variable {dialect : Dialect} {rest : List Char} (free : rest.head? ≠ some dialect.nameQuote)
include free

theorem readTable?_fragment (ends : ¬ ".".toList <+: rest) (table : String) :
    readTable? dialect (((Path.fragment (Name.segments table)).text dialect).toList ++ rest) =
      some (table, rest) := by
  have visible (rest : List Char) : (".".toList ++ rest).head? ≠ some dialect.nameQuote := by
    cases dialect <;> exact fun same => absurd (Option.some.inj same) (by decide)
  have whole := Name.intercalate_segments table
  rw [readTable?, Fragment.text, String.toList_ofList, Path.fragment]
  cases segments : Name.segments table with
  | nil => exact absurd (List.map_eq_nil_iff.mp segments) (Name.cut_ne_nil _)
  | cons first others =>
    rw [readTokens?_join (fun _ => rfl) visible free ends first others, Option.map_some, ← segments]
    exact congrArg (fun name => some (name, rest)) whole

theorem readColumns?_names (ends : ¬ ", ".toList <+: rest) (columns : List String) :
    readColumns? dialect (((Fragment.names columns).text dialect).toList ++ rest) =
      some (columns, rest) := by
  have other : ',' ≠ dialect.nameQuote := by cases dialect <;> decide
  rw [Fragment.text, String.toList_ofList]
  exact readList?_join (fun _ => rfl) (head?_comma_append_ne other) free ends columns

end

theorem readCheck?_oneOfFragment (dialect : Dialect) (column : String) (allowed : List String)
    (rest : List Char) :
    readCheck? dialect (((oneOfFragment column allowed).text dialect).toList ++ rest) =
      some ((column, allowed), rest) := by
  let values := chars dialect.nameQuote (Fragment.literals allowed) ++ ')' :: ')' :: rest
  have form : ((oneOfFragment column allowed).text dialect).toList ++ rest =
      "CHECK (".toList ++
        (Quoted.enclose dialect.nameQuote column.toList ++ (" IN (".toList ++ values)) := by
    simp [Fragment.text, oneOfFragment, Fragment.parens, Piece.chars, values]
  have free : (" IN (".toList ++ values).head? ≠ some dialect.nameQuote := by
    cases dialect <;> exact fun same => absurd (Option.some.inj same) (by decide)
  have name := readToken?_enclose_append column free
  have close : readWord? "))" (')' :: ')' :: rest) = some rest := readWord?_append "))" rest
  simp only [readCheck?, form, readWord?_append, name, readList?_literals, close, values,
    Option.bind_eq_bind, Option.bind_some]
  rfl

theorem readEnumeration?_fragment (dialect : Dialect) (allowed : List String) (rest : List Char) :
    readEnumeration?
        (((Compile.mysqlType (.enumeration allowed)).fragment.text dialect).toList ++ rest) =
      some (allowed, rest) := by
  have arguments : (allowed.map TypeArgument.literal).map (fun argument => [argument.piece]) =
      allowed.map fun value => [.literal value] := by
    rw [List.map_map]
    rfl
  have form : ((Compile.mysqlType (.enumeration allowed)).fragment.text dialect).toList ++ rest =
      "ENUM(".toList ++ (chars dialect.nameQuote (Fragment.literals allowed) ++ ')' :: rest) := by
    simp only [Compile.mysqlType, NativeType.fragment, arguments]
    simp [Fragment.text, Fragment.parens, Piece.chars, Fragment.literals]
  have close : readWord? ")" (')' :: rest) = some rest := readWord?_append ")" rest
  simp only [readEnumeration?, form, readWord?_append, readList?_literals, close,
    Option.bind_eq_bind, Option.bind_some]
  rfl

/-- What reads back with nothing behind it is written in one way only. -/
theorem injective_of_readsBack {α : Type} {write : α → String}
    {read? : List Char → Option (α × List Char)}
    (back : ∀ a, read? ((write a).toList ++ []) = some (a, [])) : Function.Injective write := by
  intro first second same
  have read := back first
  rw [same, back second] at read
  exact (congrArg Prod.fst (Option.some.inj read)).symm

/-! ## The forms of a dialect -/

open Compile (enumerationCheck? nativeType)

/-- The text of the check of an enumeration. -/
def checkText? (dialect : Dialect) (column : Column) : Option String :=
  (enumerationCheck? column).map fun clause => clause.fragment.text dialect

/-- The quoted forms of a dialect read back, and what stands behind them is left.  A form that ends in
a quote must not run into another one, and behind a list its separator must not stand. -/
structure FormsReadBack (dialect : Dialect) : Prop where
  name : ∀ (text : String) (rest : List Char), rest.head? ≠ some dialect.nameQuote →
    readToken? dialect.nameQuote ((Fragment.text dialect [.name text]).toList ++ rest) =
      some (text, rest)
  literal : ∀ (text : String) (rest : List Char), rest.head? ≠ some '\'' →
    readToken? '\'' ((Fragment.text dialect [.literal text]).toList ++ rest) = some (text, rest)
  table : ∀ (table : String) (rest : List Char), rest.head? ≠ some dialect.nameQuote →
    ¬ ".".toList <+: rest →
    readTable? dialect (((Path.fragment (Name.segments table)).text dialect).toList ++ rest) =
      some (table, rest)
  columns : ∀ (columns : List String) (rest : List Char), rest.head? ≠ some dialect.nameQuote →
    ¬ ", ".toList <+: rest →
    readColumns? dialect (((Fragment.names columns).text dialect).toList ++ rest) =
      some (columns, rest)
  check : ∀ (column : Column) (allowed : List String) (rest : List Char), ∃ text,
    checkText? dialect { column with type := .enumeration allowed } = some text ∧
      readCheck? dialect (text.toList ++ rest) = some ((column.name, allowed), rest)
  enumeration : ∀ (column : Column) (allowed : List String) (rest : List Char), dialect = .mysql →
    readEnumeration? (((nativeType dialect { column with type := .enumeration allowed }).fragment.text
      dialect).toList ++ rest) = some (allowed, rest)

/-- No two tables, column lists or lists of values are written alike. -/
structure FormsDiffer (dialect : Dialect) : Prop where
  table : Function.Injective fun table => (Path.fragment (Name.segments table)).text dialect
  columns : Function.Injective fun columns => (Fragment.names columns).text dialect
  check : ∀ (column other : Column) (first second : List String),
    checkText? dialect { column with type := .enumeration first } =
      checkText? dialect { other with type := .enumeration second } →
    column.name = other.name ∧ first = second
  enumeration : ∀ column : Column, dialect = .mysql → Function.Injective fun allowed =>
    (nativeType dialect { column with type := .enumeration allowed }).fragment.text dialect

variable {dialect : Dialect}

theorem formsReadBack (dialect : Dialect) : FormsReadBack dialect := by
  constructor
  case name =>
    intro text rest free
    have token : chars dialect.nameQuote [.name text] = Quoted.enclose dialect.nameQuote text.toList :=
      chars_singleton (fun _ => rfl) text
    rw [Fragment.text, String.toList_ofList, token]
    exact readToken?_enclose_append text free
  case literal =>
    intro text rest free
    have token : chars dialect.nameQuote [.literal text] = Quoted.enclose '\'' text.toList :=
      chars_singleton (fun _ => rfl) text
    rw [Fragment.text, String.toList_ofList, token]
    exact readToken?_enclose_append text free
  case table => exact fun table rest free ends => readTable?_fragment free ends table
  case columns => exact fun columns rest free ends => readColumns?_names free ends columns
  case check =>
    intro column allowed rest
    exact ⟨_, rfl, readCheck?_oneOfFragment dialect column.name allowed rest⟩
  case enumeration =>
    rintro column allowed rest rfl
    exact readEnumeration?_fragment .mysql allowed rest

/-- What reads back is told apart. -/
theorem FormsReadBack.differ (back : FormsReadBack dialect) : FormsDiffer dialect := by
  constructor
  case table => exact injective_of_readsBack fun table => back.table table [] nofun (by simp)
  case columns => exact injective_of_readsBack fun columns => back.columns columns [] nofun (by simp)
  case check =>
    intro column other first second same
    obtain ⟨text, written, read⟩ := back.check column first []
    obtain ⟨again, written', read'⟩ := back.check other second []
    rw [written, written'] at same
    rw [Option.some.inj same] at read
    exact Prod.ext_iff.mp (congrArg Prod.fst (Option.some.inj (read.symm.trans read')))
  case enumeration =>
    intro column mysql
    exact injective_of_readsBack fun allowed => back.enumeration column allowed [] mysql

/-- Every quoted form of every dialect reads back as what it was written from, whatever quotes, dots
and commas that holds and whatever follows; so different things are never written alike. -/
theorem quotedForms_decode (dialect : Dialect) : FormsReadBack dialect ∧ FormsDiffer dialect :=
  ⟨formsReadBack dialect, (formsReadBack dialect).differ⟩

end TablePlan.Sql

import Mathlib.Data.List.Nodup
import TablePlan.Proofs.Reading
import TablePlan.Proofs.StatementOrder
import TablePlan.Proofs.WellFormed

/-!
# Columns that hold one of some values

The values of an enumeration are part of its native type in mysql, and of a check behind the type in
postgres and sqlite.  Main statement: when a plan that is built compiles, each enumeration is
restricted to its values wherever it is defined, unless in postgres it is a column that is changed
(`enumerations_toSql`).
-/

namespace TablePlan

namespace Sql

/-! ## Restrictions -/

/-- The native type of an enumeration. -/
def enumerationType (allowed : List String) : NativeType :=
  { word := "ENUM", arguments := some (allowed.map .literal) }

/-- Whether a definition restricts a column to some values: by its type in mysql, by a check in the
other dialects. -/
def ColumnDefinition.restricts (dialect : Dialect) (column : String) (allowed : List String)
    (definition : ColumnDefinition) : Bool :=
  definition.name = column &&
    match dialect with
    | .mysql => definition.type = enumerationType allowed
    | .postgres | .sqlite => definition.clauses.contains (.oneOf column allowed)

/-- The column that an element of a new table defines. -/
def TableElement.definition? : TableElement → Option ColumnDefinition
  | .column definition => some definition
  | .constraint _ | .key .. => none

/-- The column that an action defines. -/
def Alteration.definition? : Alteration → Option ColumnDefinition
  | .addColumn definition | .modifyColumn definition => some definition
  | _ => none

/-- The columns that a statement defines. -/
def Statement.definitions : Statement → List ColumnDefinition
  | .createTable _ _ elements _ => elements.filterMap TableElement.definition?
  | .alterTable _ alterations => alterations.filterMap Alteration.definition?
  | _ => []

/-- Whether a statement restricts a column to some values. -/
def Statement.restricts (dialect : Dialect) (column : String) (allowed : List String)
    (statement : Statement) : Bool :=
  statement.definitions.any (ColumnDefinition.restricts dialect column allowed)

/-! ## What a restriction looks like -/

/-- The restriction of a column as it is written. -/
def restriction (dialect : Dialect) (column : String) (allowed : List String) : Fragment :=
  match dialect with
  | .mysql =>
    .name column :: .bare " " :: .bare "ENUM" :: Fragment.parens (Fragment.literals allowed)
  | .postgres | .sqlite => oneOfFragment column allowed

section
variable {dialect : Dialect} {column : String} {allowed : List String}

theorem infix_flatMap {α β : Type} {a : α} {list : List α} (member : a ∈ list)
    (part : α → List β) : part a <:+: list.flatMap part := by
  rw [List.flatMap_def]
  exact List.infix_of_mem_flatten (List.mem_map_of_mem member)

theorem Fragment.infix_commas {α : Type} {a : α} {list : List α} (member : a ∈ list)
    (part : α → Fragment) : part a <:+: commas (list.map part) := by
  induction list with
  | nil => cases member
  | cons first rest ih =>
    cases rest with
    | nil =>
      cases List.mem_singleton.mp member
      exact List.infix_rfl
    | cons second others =>
      rcases List.mem_cons.mp member with rfl | later
      · exact List.infix_append_of_infix_left List.infix_rfl
      · exact List.infix_append_of_infix_right (List.infix_cons (ih later))

theorem Fragment.infix_text {part whole : Fragment} (inside : part <:+: whole) :
    (part.text dialect).toList <:+: (whole.text dialect).toList := by
  obtain ⟨before, after, rfl⟩ := inside
  rw [text, text, String.toList_ofList, String.toList_ofList, chars_append, chars_append]
  exact ⟨_, _, rfl⟩

theorem ColumnDefinition.restricts_iff {definition : ColumnDefinition} :
    definition.restricts dialect column allowed = true ↔ definition.name = column ∧
      if dialect = .mysql then definition.type = enumerationType allowed
      else .oneOf column allowed ∈ definition.clauses := by
  cases dialect <;> simp [restricts]

theorem ColumnDefinition.infix_fragment {definition : ColumnDefinition}
    (restricts : definition.restricts dialect column allowed = true) :
    restriction dialect column allowed <:+: definition.fragment := by
  obtain ⟨rfl, held⟩ := restricts_iff.mp restricts
  have check (stated : .oneOf definition.name allowed ∈ definition.clauses) :
      oneOfFragment definition.name allowed <:+: definition.fragment := by
    refine List.infix_append_of_infix_right ?_
    exact (List.suffix_cons _ _).isInfix.trans
      (infix_flatMap stated fun clause => .bare " " :: clause.fragment)
  cases dialect with
  | postgres | sqlite => exact check held
  | mysql =>
    have type : definition.type.fragment =
        .bare "ENUM" :: Fragment.parens (Fragment.literals allowed) ++ [.bare ""] := by
      have same : definition.type = enumerationType allowed := held
      simp [same, NativeType.fragment, enumerationType, Fragment.literals, Function.comp_def,
        TypeArgument.piece]
    have whole : definition.fragment = restriction .mysql definition.name allowed ++ .bare "" ::
        definition.clauses.flatMap fun clause => .bare " " :: clause.fragment := by
      rw [fragment, type]
      simp [restriction]
    rw [whole]
    exact (List.prefix_append _ _).isInfix

/-- The creation of a table holds its elements. -/
theorem Statement.infix_element {element : TableElement} {elements : List TableElement}
    (member : element ∈ elements) (ifNotExists : Bool) (table : Path) (options : List TableOption) :
    element.fragment <:+: (createTable ifNotExists table elements options).fragment := by
  have inside := Fragment.infix_commas member TableElement.fragment
  refine List.infix_append_of_infix_left (List.infix_append_of_infix_right ?_)
  exact List.infix_cons (List.infix_cons (List.infix_append_of_infix_left inside))

/-- An alteration of a table holds its actions. -/
theorem Statement.infix_alteration {alteration : Alteration} {alterations : List Alteration}
    (member : alteration ∈ alterations) (table : Path) :
    alteration.fragment <:+: (alterTable table alterations).fragment :=
  List.infix_append_of_infix_right
    (List.infix_cons (Fragment.infix_commas member Alteration.fragment))

/-- A statement holds the definitions of the columns that it defines. -/
theorem Statement.infix_definition {statement : Statement} {definition : ColumnDefinition}
    (listed : definition ∈ statement.definitions) :
    definition.fragment <:+: statement.fragment := by
  cases statement with
  | createTable ifNotExists table elements options =>
    obtain ⟨element, member, defines⟩ := List.mem_filterMap.mp listed
    cases element with
    | constraint | key => cases defines
    | column =>
      cases defines
      exact infix_element member ifNotExists table options
  | alterTable table alterations =>
    obtain ⟨alteration, member, defines⟩ := List.mem_filterMap.mp listed
    have defined : definition.fragment <:+: alteration.fragment := by
      cases alteration with
      | addColumn | modifyColumn =>
        cases defines
        exact List.infix_cons List.infix_rfl
      | _ => cases defines
    exact defined.trans (infix_alteration member table)
  | _ => cases listed

/-- A statement that restricts a column holds the restriction. -/
theorem Statement.infix_fragment {statement : Statement}
    (restricts : statement.restricts dialect column allowed = true) :
    restriction dialect column allowed <:+: statement.fragment := by
  obtain ⟨definition, listed, restricts⟩ := List.any_eq_true.mp restricts
  exact (ColumnDefinition.infix_fragment restricts).trans (infix_definition listed)

/-- A reader finds in a restriction the column and the values, in order. -/
theorem read?_restriction :
    (read? dialect.nameQuote ((restriction dialect column allowed).text dialect)).map
        (fun reading => (reading.identifiers, reading.literals)) =
      some ([column], allowed) := by
  have plain : (restriction dialect column allowed).IsPlain := by
    cases dialect <;> simp +decide [restriction]
  have spaced : (restriction dialect column allowed).IsSpaced := by
    cases dialect <;> simp +decide [restriction]
  have identifiers : (restriction dialect column allowed).identifiers = [column] := by
    cases dialect <;> simp [restriction, oneOfFragment]
  have literals : (restriction dialect column allowed).literalValues = allowed := by
    cases dialect <;>
      simp [restriction, oneOfFragment, Fragment.parens, Piece.literal?]
  rw [read?_text plain spaced, Option.map_some, Fragment.reading, identifiers, literals]

end

end Sql

namespace Compile

open Sql

section
variable {dialect : Dialect} {plan : Plan} {column : Column} {allowed : List String}

/-! ## Columns that are defined -/

variable (dialect plan) in
/-- The definition of an enumeration restricts it, whatever else it says. -/
theorem restricts_columnDefinition (type : column.type = .enumeration allowed) :
    (columnDefinition dialect plan column).restricts dialect column.name allowed = true := by
  have check : (enumerationCheck? column).toList = [.oneOf column.name allowed] := by
    rw [enumerationCheck?, type]
    rfl
  refine ColumnDefinition.restricts_iff.mpr ⟨rfl, ?_⟩
  cases dialect with
  | postgres => simp [columnDefinition, postgresClauses, check]
  | mysql => simp [columnDefinition, nativeType, type, mysqlType, enumerationType]
  | sqlite => simp [columnDefinition, sqliteClauses, check]

variable (dialect) (type : column.type = .enumeration allowed)
include type

/-- A creation defines all columns. -/
theorem restricts_createTableOutput (listed : column ∈ plan.columns) (ifNotExists : Bool) :
    ∃ statement ∈ createTableOutput dialect plan ifNotExists,
      statement.table? = some (tablePath plan) ∧
        statement.restricts dialect column.name allowed = true := by
  refine ⟨_, List.mem_cons_self, rfl, List.any_eq_true.mpr
    ⟨_, ?_, restricts_columnDefinition dialect plan type⟩⟩
  refine List.mem_filterMap.mpr ⟨_, List.mem_append_left _ (List.mem_map_of_mem listed), rfl⟩

/-- An addition defines the new columns. -/
theorem restricts_addColumnsOutput (listed : column ∈ plan.addedColumns) :
    ∃ statement ∈ addColumnsOutput dialect plan,
      statement.table? = some (tablePath plan) ∧
        statement.restricts dialect column.name allowed = true := by
  have restricts := restricts_columnDefinition dialect plan type
  have addition : Alteration.addColumn (columnDefinition dialect plan column) ∈
      columnAdditions dialect plan := List.mem_map_of_mem listed
  have filled : plan.addedColumns.isEmpty = false := by
    rw [List.isEmpty_eq_false_iff]
    exact List.ne_nil_of_mem listed
  unfold addColumnsOutput
  rw [filled, if_neg Bool.false_ne_true]
  split
  · refine ⟨_, List.mem_map_of_mem addition, rfl, List.any_eq_true.mpr ⟨_, ?_, restricts⟩⟩
    exact List.mem_filterMap.mpr ⟨_, List.mem_singleton.mpr rfl, rfl⟩
  · refine ⟨_, List.mem_cons_self, rfl, List.any_eq_true.mpr ⟨_, ?_, restricts⟩⟩
    exact List.mem_filterMap.mpr ⟨_, List.mem_append_left _ addition, rfl⟩

/-- In mysql a change defines the changed columns anew. -/
theorem restricts_changeColumnsOutput (listed : column ∈ plan.changedColumns) :
    ∃ statement ∈ changeColumnsOutput .mysql plan,
      statement.table? = some (tablePath plan) ∧
        statement.restricts .mysql column.name allowed = true := by
  have filled : plan.changedColumns.isEmpty = false := by
    rw [List.isEmpty_eq_false_iff]
    exact List.ne_nil_of_mem listed
  rw [changeColumnsOutput_mysql, filled, if_neg Bool.false_ne_true]
  refine ⟨_, List.mem_singleton.mpr rfl, rfl, List.any_eq_true.mpr
    ⟨_, ?_, restricts_columnDefinition .mysql plan type⟩⟩
  exact List.mem_filterMap.mpr ⟨_, List.mem_map_of_mem listed, rfl⟩

end

section
variable {plan : Plan}

/-! ## Columns that postgres defines in an alteration -/

theorem definitions_of_declaresNothing {statement : Statement}
    (nothing : statement.DeclaresNothing) : statement.definitions = [] := by
  cases statement with
  | createTable => exact nothing.elim
  | alterTable table alterations =>
    refine List.filterMap_eq_nil_iff.mpr fun alteration listed => ?_
    have nothing := nothing alteration listed
    cases alteration with
    | addColumn | modifyColumn => exact nothing.elim
    | _ => rfl
  | _ => rfl

theorem definitions_changeColumn (column : Column) :
    (changeColumn plan column).definitions = [] := by
  unfold changeColumn
  cases column.nullable <;> cases column.autoIncrement <;> cases column.defaultValue <;> rfl

theorem mem_definitions_addColumnsOutput {statement : Statement}
    (listed : statement ∈ addColumnsOutput .postgres plan) {definition : ColumnDefinition}
    (defined : definition ∈ statement.definitions) :
    ∃ column ∈ plan.addedColumns, definition = columnDefinition .postgres plan column := by
  unfold addColumnsOutput at listed
  rw [if_neg nofun] at listed
  split at listed
  · cases listed
  · rcases List.mem_cons.mp listed with rfl | comment
    · obtain ⟨alteration, member, defines⟩ := List.mem_filterMap.mp defined
      rcases List.mem_append.mp member with addition | primary
      · obtain ⟨column, added, rfl⟩ := List.mem_map.mp addition
        cases defines
        exact ⟨column, added, rfl⟩
      · obtain ⟨key, _, rfl⟩ := List.mem_map.mp primary
        cases defines
    · obtain ⟨column, text, rfl⟩ := exists_of_mem_columnComments comment
      cases defined

/-- Of an existing table postgres defines the new columns only. -/
theorem mem_definitions_commandOutput {asked : Command} (noCreation : asked.isCreate = false)
    {statement : Statement} (listed : statement ∈ commandOutput .postgres plan asked)
    {definition : ColumnDefinition} (defined : definition ∈ statement.definitions) :
    ∃ column ∈ plan.addedColumns, definition = columnDefinition .postgres plan column := by
  cases asked with
  | create | createIfNotExists => cases noCreation
  | add =>
    rcases List.mem_append.mp listed with addition | definitions
    · exact mem_definitions_addColumnsOutput addition defined
    · rcases mem_definitionsOutput definitions with ⟨index, rfl, _⟩ | ⟨_, added, rfl⟩
      · cases defined
      · cases defined
  | change =>
    rcases List.mem_append.mp listed with changed | comment
    · obtain ⟨column, _, rfl⟩ := List.mem_map.mp changed
      rw [definitions_changeColumn] at defined
      cases defined
    · obtain ⟨column, text, rfl⟩ := exists_of_mem_columnComments comment
      cases defined
  | comment =>
    obtain ⟨text, _, rfl⟩ := List.mem_map.mp listed
    cases defined
  | _ =>
    have nothing := declaresNothing_commandOutput rfl statement listed
    rw [definitions_of_declaresNothing nothing] at defined
    cases defined

end

end Compile

namespace Plan

open Compile Sql

section
variable {plan : Plan} {column : Column} (listed : column ∈ plan.columns) {allowed : List String}
include listed

/-- What defines a column restricts it: a creation, an addition, or in mysql a change. -/
theorem exists_restricts {dialect : Dialect} (passed : plan.verdict dialect = .ok ())
    (type : column.type = .enumeration allowed)
    (kept : ¬ (dialect = .postgres ∧ plan.creating = false ∧ column.change = true)) :
    ∃ statement ∈ plan.output dialect, statement.table? = some (tablePath plan) ∧
      statement.restricts dialect column.name allowed = true := by
  have of_command {asked : Command} (command : asked ∈ plan.commands)
      (restricts : ∃ statement ∈ commandOutput dialect plan asked,
        statement.table? = some (tablePath plan) ∧
          statement.restricts dialect column.name allowed = true) :
      ∃ statement ∈ plan.output dialect, statement.table? = some (tablePath plan) ∧
        statement.restricts dialect column.name allowed = true := by
    obtain ⟨statement, given, spec⟩ := restricts
    exact ⟨statement, List.mem_flatMap.mpr ⟨asked, command, given⟩, spec⟩
  cases creating : plan.creating with
  | true =>
    obtain ⟨asked, command, creation⟩ := exists_creation_mem_commands creating
    refine of_command command ?_
    obtain ⟨ifNotExists, output⟩ := commandOutput_of_isCreate dialect plan creation
    obtain ⟨statement, given, spec⟩ := restricts_createTableOutput dialect type listed ifNotExists
    rw [output]
    exact ⟨statement, List.mem_append_left _ given, spec⟩
  | false =>
    cases change : column.change with
    | false =>
      have added : column ∈ plan.addedColumns :=
        List.mem_filter.mpr ⟨listed, by rw [change]; rfl⟩
      have additions : plan.hasAdditions = true := by
        simp [hasAdditions, List.ne_nil_of_mem added]
      obtain ⟨statement, given, spec⟩ := restricts_addColumnsOutput dialect type added
      exact of_command (add_mem_commands creating additions)
        ⟨statement, List.mem_append_left _ given, spec⟩
    | true =>
      have changed : column ∈ plan.changedColumns := List.mem_filter.mpr ⟨listed, change⟩
      have filled := List.ne_nil_of_mem changed
      have command := change_mem_commands creating filled
      cases dialect with
      | postgres => exact absurd ⟨rfl, creating, change⟩ kept
      | mysql => exact of_command command (restricts_changeColumnsOutput type changed)
      | sqlite =>
        obtain ⟨_, verdict⟩ := bind_eq_ok_iff.mp (forM_eq_ok_iff.mp passed .change command)
        exact absurd (by simpa using verdict) filled

/-- In postgres no statement restricts a column that is changed. -/
theorem not_restricts_of_changed (order : plan.AsksInOrder)
    (passed : plan.verdict .postgres = .ok ()) (existing : plan.creating = false)
    (change : column.change = true) {statement : Statement}
    (member : statement ∈ plan.output .postgres) :
    statement.restricts .postgres column.name allowed = false := by
  rw [← Bool.not_eq_true]
  intro restricts
  obtain ⟨definition, defined, restricts⟩ := List.any_eq_true.mp restricts
  obtain ⟨asked, command, given⟩ := List.mem_flatMap.mp member
  have noCreation := isCreate_of_existing order existing command
  obtain ⟨other, added, rfl⟩ := mem_definitions_commandOutput noCreation given defined
  obtain ⟨among, new⟩ := List.mem_filter.mp added
  -- Names are distinct, so the new column with the name would be the changed one.
  have same : other = column := List.inj_on_of_nodup_map (wellFormed_of_verdict passed).distinct
    among listed (ColumnDefinition.restricts_iff.mp restricts).1
  simp [same, change] at new

end

variable {dialect : Dialect} {table : String} {steps : List Step} {texts : List String}

/-- When a plan that is built compiles, each enumeration is restricted by a statement on its table,
whether the table is created, the column is added or it is changed; the one exception is a column
that is changed in postgres, which no statement restricts.  A statement that restricts a column
holds the column and all its values, quoted and in order. -/
theorem enumerations_toSql (compiled : (build table steps).toSql dialect = .ok texts) :
    ∃ statements, (build table steps).statements dialect = .ok statements ∧
      texts = statements.map (Statement.text dialect) ∧
      ∀ column ∈ (build table steps).columns, ∀ allowed, column.type = .enumeration allowed →
        ((∃ statement ∈ statements, statement.table? = some (Name.segments table) ∧
            statement.restricts dialect column.name allowed = true) ↔
          ¬ (dialect = .postgres ∧ (build table steps).creating = false ∧ column.change = true)) ∧
        (∀ statement ∈ statements, statement.restricts dialect column.name allowed = true →
          ((restriction dialect column.name allowed).text dialect).toList <:+:
            (statement.text dialect).toList) ∧
        (read? dialect.nameQuote ((restriction dialect column.name allowed).text dialect)).map
            (fun reading => (reading.identifiers, reading.literals)) =
          some ([column.name], allowed) := by
  have order := asksInOrder_build table steps
  have path : tablePath (build table steps) = Name.segments table := by
    rw [tablePath, table_build]
  revert compiled order path
  generalize build table steps = plan
  intro compiled order path
  obtain ⟨passed, same_output, texts_eq⟩ := statements_of_toSql compiled
  refine ⟨plan.output dialect, same_output, texts_eq, ?_⟩
  intro column listed allowed type
  refine ⟨⟨?_, fun kept => ?_⟩, ?_, read?_restriction⟩
  · rintro ⟨statement, member, -, restricts⟩ ⟨rfl, existing, change⟩
    rw [not_restricts_of_changed listed order passed existing change member] at restricts
    cases restricts
  · rw [← path]
    exact exists_restricts listed passed type kept
  · intro statement _ restricts
    exact Fragment.infix_text (Statement.infix_fragment restricts)

/-- An alteration in postgres restricts the new column `b`, and not the changed column `a`. -/
theorem enumerations_toSql_alteration :
    let steps : List Step :=
      [.column "a" (.enumeration ["x", "y"]) [.change], .column "b" (.enumeration ["it's", "z"]) []]
    ∃ statements, (build "t" steps).statements .postgres = .ok statements ∧
      (∃ statement ∈ statements, statement.table? = some ["t"] ∧
        statement.restricts .postgres "b" ["it's", "z"] = true) ∧
      ¬ ∃ statement ∈ statements, statement.table? = some ["t"] ∧
        statement.restricts .postgres "a" ["x", "y"] = true := by
  intro steps
  have compiled : (build "t" steps).toSql .postgres =
      .ok ["ALTER TABLE \"t\" ALTER COLUMN \"a\" TYPE VARCHAR(255), " ++
          "ALTER COLUMN \"a\" SET NOT NULL, ALTER COLUMN \"a\" DROP DEFAULT",
        "ALTER TABLE \"t\" ADD COLUMN \"b\" VARCHAR(255) NOT NULL " ++
          "CHECK (\"b\" IN ('it''s', 'z'))"] := by decide +kernel
  obtain ⟨statements, same, _, restricted⟩ := enumerations_toSql compiled
  refine ⟨statements, same, ?_, ?_⟩
  · exact (restricted (Column.declare "b" (.enumeration ["it's", "z"]) []) (by decide) _ rfl).1.mpr
      fun changed => absurd changed.2.2 (by decide)
  · intro found
    exact (restricted (Column.declare "a" (.enumeration ["x", "y"]) [.change]) (by decide) _
      rfl).1.mp found ⟨rfl, by decide, rfl⟩

/-- A change in postgres frees the enumeration, which the same change in mysql restricts. -/
theorem enumeration_freed_on_change :
    let plan := build "t" [.column "a" (.enumeration ["x", "y"]) [.change]]
    plan.columns.map Column.type = [.enumeration ["x", "y"]] ∧
      (∃ statement, plan.statements .postgres = .ok [statement] ∧
        statement.text .postgres = "ALTER TABLE \"t\" ALTER COLUMN \"a\" TYPE VARCHAR(255), " ++
          "ALTER COLUMN \"a\" SET NOT NULL, ALTER COLUMN \"a\" DROP DEFAULT" ∧
        statement.restricts .postgres "a" ["x", "y"] = false) ∧
      ∃ statement, plan.statements .mysql = .ok [statement] ∧
        statement.text .mysql = "ALTER TABLE `t` MODIFY COLUMN `a` ENUM('x', 'y') NOT NULL" ∧
        statement.restricts .mysql "a" ["x", "y"] = true := by
  intro plan
  let column := Column.declare "a" (.enumeration ["x", "y"]) [.change]
  refine ⟨rfl, ⟨changeColumn plan column, ?_⟩,
    .alterTable ["t"] [.modifyColumn (columnDefinition .mysql plan column)], ?_⟩
  all_goals decide +kernel

end Plan

end TablePlan

import TablePlan.Proofs.Containment
import TablePlan.Proofs.Reading
import TablePlan.Proofs.Renaming
import TablePlan.Proofs.StatementOrder

/-!
# Where a table name is taken apart

A table name is cut at every dot when it is quoted, at the last dot when a schema is asked for, and at
the only dot when it is checked.  Main statement: a session accepts a name exactly when it has one dot
at most, where the dialect allows for one, and nothing of it is blank; and then all agree on what its
schema and its name there are, so that a question about a table is about the table that its statements
address (`table_names_resolve`).
-/

namespace TablePlan

open Text (isBlank Quoted.enclose)
open Compile Sql

/-! ## Names that are accepted -/

/-- A table name is not blank; it has no dot, or in a dialect with schemas exactly one, with something
that is not blank on both sides of it. -/
def Dialect.Admits (dialect : Dialect) (table : String) : Prop :=
  isBlank table = false ∧
    ('.' ∉ table.toList ∨
      dialect.supportsSchemas = true ∧ table.toList.count '.' = 1 ∧
        ∃ schema name, table = schema ++ "." ++ name ∧
          isBlank schema = false ∧ isBlank name = false)

/-- A name with a schema in front of it, if there is one. -/
def Name.qualify (schema : Option String) (name : String) : String :=
  schema.elim name fun schema => schema ++ "." ++ name

/-- One dot in a name that is joined by a dot is that dot. -/
theorem Name.notMem_of_count {schema name : String}
    (single : (schema ++ "." ++ name).toList.count '.' = 1) :
    '.' ∉ schema.toList ∧ '.' ∉ name.toList := by
  have parts : (schema ++ "." ++ name).toList = schema.toList ++ '.' :: name.toList := by simp
  rw [parts, List.count_append, List.count_cons_self] at single
  rw [← List.count_eq_zero, ← List.count_eq_zero]
  omega

theorem Name.count_of_notMem {schema name : String} (freeSchema : '.' ∉ schema.toList)
    (freeName : '.' ∉ name.toList) : (schema ++ "." ++ name).toList.count '.' = 1 := by
  have parts : (schema ++ "." ++ name).toList = schema.toList ++ '.' :: name.toList := by simp
  rw [parts, List.count_append, List.count_cons_self, List.count_eq_zero.mpr freeSchema,
    List.count_eq_zero.mpr freeName]

/-- The segments of a name hold no dot. -/
theorem Name.notMem_of_mem_segments {name segment : String} (listed : segment ∈ segments name) :
    '.' ∉ segment.toList := by
  obtain ⟨text, member, rfl⟩ := List.mem_map.mp listed
  rw [String.toList_ofList]
  exact dot_notMem_of_mem_cut member

/-- A name of two segments is these around a dot. -/
theorem Name.eq_of_segments_eq_pair {table schema name : String}
    (pair : segments table = [schema, name]) : table = schema ++ "." ++ name := by
  have whole := intercalate_segments table
  rw [pair] at whole
  exact whole.symm

theorem checkTableName_eq_ok_iff_admits {dialect : Dialect} {table : String} :
    checkTableName dialect table = .ok () ↔ dialect.Admits table := by
  rw [checkTableName_eq_ok_iff, Dialect.Admits]
  refine and_congr_right fun _ => or_congr ⟨fun single => ?_, Name.segments_of_notMem⟩
    (and_congr_right fun _ => ⟨?_, ?_⟩)
  · exact Name.notMem_of_mem_segments (single ▸ List.mem_singleton.mpr rfl)
  · rintro ⟨schema, name, pair, blanks⟩
    have free {segment : String} (listed : segment ∈ [schema, name]) : '.' ∉ segment.toList :=
      Name.notMem_of_mem_segments (pair ▸ listed)
    have joined := Name.eq_of_segments_eq_pair pair
    refine ⟨?_, schema, name, joined, blanks⟩
    rw [joined]
    exact Name.count_of_notMem (free (by simp)) (free (by simp))
  · rintro ⟨single, schema, name, rfl, blanks⟩
    obtain ⟨freeSchema, freeName⟩ := Name.notMem_of_count single
    refine ⟨schema, name, ?_, blanks⟩
    rw [Name.segments_append_dot, Name.segments_of_notMem freeSchema,
      Name.segments_of_notMem freeName]
    rfl

/-! ## What is made of a name -/

/-- A text in the quotes of the dialect's identifiers. -/
def Dialect.quoteName (dialect : Dialect) (name : String) : String :=
  String.ofList (Quoted.enclose dialect.nameQuote name.toList)

/-- A quoted name behind the quoted schema, if there is one. -/
def Dialect.quoteQualified (dialect : Dialect) (schema : Option String) (name : String) : String :=
  Name.qualify (schema.map dialect.quoteName) (dialect.quoteName name)

/-- What a reader finds in the question for a table: a schema that is named is a literal, the current
one an expression. -/
def tableReading (schema : Option String) (name : String) : Dialect → Reading
  | .sqlite =>
    { template := "SELECT 1 FROM sqlite_master WHERE type = ? AND name = ?"
      identifiers := []
      literals := ["table", name] }
  | dialect =>
    { template := "SELECT 1 FROM information_schema.tables WHERE table_schema = " ++
        schema.elim (currentSchema dialect) (fun _ => "?") ++ " AND table_name = ?"
      identifiers := []
      literals := schema.toList ++ [name] }

/-- What a reader finds in the question for a column. -/
def columnReading (schema : Option String) (name column : String) : Dialect → Reading
  | .sqlite =>
    { template := "SELECT 1 FROM pragma_table_info(?) WHERE name = ?"
      identifiers := []
      literals := [name, column] }
  | dialect =>
    { template := "SELECT 1 FROM information_schema.columns WHERE table_schema = " ++
        schema.elim (currentSchema dialect) (fun _ => "?") ++
        " AND table_name = ? AND column_name = ?"
      identifiers := []
      literals := schema.toList ++ [name, column] }

/-- The index that a statement drops or renames by the name of the index alone. -/
def Sql.Statement.index? : Statement → Option Path
  | .renameIndex index _ | .dropIndex index => some index
  | _ => none

/-- All that is made of a table name is about the table `name`, of the schema `schema` if there is
one. -/
structure Dialect.Resolves (dialect : Dialect) (table : String) (schema : Option String)
    (name : String) : Prop where
  joined : table = Name.qualify schema name
  schemaOf : Name.schema? table = schema
  nameOf : Name.unqualified table = name
  quoted : (Path.fragment (Name.segments table)).text dialect = dialect.quoteQualified schema name
  quotedIndex : ∀ plan : Plan, plan.table = table → ∀ index,
    (Path.fragment (indexPath plan index)).text dialect = dialect.quoteQualified schema index
  addressed : ∀ plan : Plan, plan.table = table →
    ∀ statements, plan.statements dialect = .ok statements →
      ∀ statement ∈ statements,
        (∀ path ∈ statement.table?, path = schema.toList ++ [name]) ∧
        ∀ path ∈ statement.index?, ∃ index, path = indexPath plan index
  tableQuestion : read? dialect.nameQuote ((tableQuery dialect table).text dialect) =
    some (tableReading schema name dialect)
  columnQuestion : ∀ column,
    read? dialect.nameQuote ((columnQuery dialect table column).text dialect) =
      some (columnReading schema name column dialect)
  tableAsked : ∀ settings transaction journal, settings.dialect = dialect →
    (Session.hasTable settings transaction table journal).2.attempted =
      journal.attempted ++ [(tableQuery dialect table).text dialect]
  columnAsked : ∀ settings transaction column journal, settings.dialect = dialect →
    isBlank column = false →
    (Session.hasColumn settings transaction table column journal).2.attempted =
      journal.attempted ++ [(columnQuery dialect table column).text dialect]

/-! ### Cuts -/

namespace Name

variable {schema : Option String} {name : String} (free : '.' ∉ name.toList)
include free

theorem schema?_qualify : schema? (qualify schema name) = schema := by
  cases schema with
  | none => exact schema?_of_singleton (segments_of_notMem free)
  | some part => exact schema?_append_dot free part

theorem unqualified_qualify : unqualified (qualify schema name) = name := by
  cases schema with
  | none => exact unqualified_of_singleton (segments_of_notMem free)
  | some part => exact unqualified_append_dot free part

theorem segments_qualify (freeSchema : ∀ part ∈ schema, '.' ∉ part.toList) :
    segments (qualify schema name) = schema.toList ++ [name] := by
  cases schema with
  | none => exact segments_of_notMem free
  | some part =>
    show segments (part ++ "." ++ name) = [part, name]
    rw [segments_append_dot, segments_of_notMem free, segments_of_notMem (freeSchema part rfl)]
    rfl

end Name

theorem text_path (dialect : Dialect) (schema : Option String) (name : String) :
    (Path.fragment (schema.toList ++ [name])).text dialect = dialect.quoteQualified schema name := by
  cases schema with
  | none =>
    simp [Path.fragment, Fragment.join, Fragment.text, Piece.chars, Dialect.quoteQualified,
      Dialect.quoteName, Name.qualify]
  | some part =>
    simp [Path.fragment, Fragment.join, Fragment.text, Piece.chars, Dialect.quoteQualified,
      Dialect.quoteName, Name.qualify, String.ofList_append, String.append_assoc]

section
variable {dialect : Dialect} {table name : String} {schema : Option String}
  (schemaOf : Name.schema? table = schema) (nameOf : Name.unqualified table = name)
  (whole : dialect.supportsSchemas = false → table = name)
include schemaOf nameOf whole

theorem reading_tableQuery :
    (tableQuery dialect table).fragment.reading = tableReading schema name dialect := by
  subst schemaOf nameOf
  rw [Fragment.reading, tableReading.eq_def]
  cases dialect with
  | sqlite =>
    rw [← whole rfl, Reading.mk.injEq]
    refine ⟨?_, rfl, rfl⟩
    simp only [tableQuery, Query.fragment, Fragment.join, List.map_cons, List.map_nil,
      List.cons_append, List.nil_append, List.flatMap_cons, List.flatMap_nil, Piece.template]
    decide +kernel
  | postgres | mysql =>
    unfold tableQuery tableConditions schemaPiece
    cases Name.schema? table with
    | none | some =>
      rw [Reading.mk.injEq]
      refine ⟨?_, rfl, rfl⟩
      simp only [Query.fragment, Fragment.join, List.map_cons, List.map_nil, currentSchema,
        List.cons_append, List.nil_append, List.flatMap_cons, List.flatMap_nil, Piece.template,
        Option.elim]
      decide +kernel

theorem reading_columnQuery (column : String) :
    (columnQuery dialect table column).fragment.reading =
      columnReading schema name column dialect := by
  subst schemaOf nameOf
  rw [Fragment.reading, columnReading.eq_def]
  cases dialect with
  | sqlite =>
    rw [← whole rfl, Reading.mk.injEq]
    refine ⟨?_, rfl, rfl⟩
    simp only [columnQuery, Query.fragment, Fragment.join, List.map_cons, List.map_nil,
      List.cons_append, List.nil_append, List.flatMap_cons, List.flatMap_nil, Piece.template]
    decide +kernel
  | postgres | mysql =>
    unfold columnQuery tableConditions schemaPiece
    cases Name.schema? table with
    | none | some =>
      rw [Reading.mk.injEq]
      refine ⟨?_, rfl, rfl⟩
      simp only [Query.fragment, Fragment.join, List.map_cons, List.map_nil, currentSchema,
        List.cons_append, List.nil_append, List.flatMap_cons, List.flatMap_nil, Piece.template,
        Option.elim]
      decide +kernel

end

/-! ### Statements -/

/-- An index that is dropped or renamed by its name alone is in the schema of the table. -/
theorem index?_commandOutput {dialect : Dialect} {plan : Plan} (asked : Command) :
    ∀ statement ∈ commandOutput dialect plan asked,
      ∀ path ∈ statement.index?, ∃ index, path = indexPath plan index := by
  intro statement listed path given
  have ofMap {names : List String} (dropped : statement ∈ names.map (dropIndex dialect plan)) :
      ∃ index, path = indexPath plan index := by
    obtain ⟨index, _, rfl⟩ := List.mem_map.mp dropped
    cases dialect with
    | mysql => cases given
    | postgres | sqlite => exact ⟨index, (Option.some_inj.mp given).symm⟩
  -- Whatever addresses the table names no index by itself.
  have unaddressed : asked.addressesTable dialect plan.creating = false := by
    have table := table?_commandOutput asked statement listed
    rw [commandTable?] at table
    cases addresses : asked.addressesTable dialect plan.creating with
    | false => rfl
    | true =>
      rw [addresses, if_pos rfl] at table
      cases statement with
      | renameIndex | dropIndex => cases table
      | _ => cases given
  cases asked with
  | dropIndex | dropUnique => exact ofMap listed
  | dropFullText =>
    cases dialect with
    | sqlite => cases listed
    | postgres | mysql => exact ofMap listed
  | renameIndex =>
    cases dialect with
    | sqlite => cases listed
    | mysql => cases unaddressed
    | postgres =>
      obtain ⟨⟨old, new⟩, _, rfl⟩ := List.mem_map.mp listed
      exact ⟨old, (Option.some_inj.mp given).symm⟩
  | comment =>
    cases dialect with
    | sqlite => cases listed
    | postgres => cases unaddressed
    | mysql =>
      simp only [commandOutput, tableCommentOutput] at listed
      split at listed
      · cases listed
      · obtain ⟨text, _, rfl⟩ := List.mem_map.mp listed
        cases given
  | dropPrimary | dropForeign =>
    cases dialect with
    | sqlite => cases listed
    | postgres | mysql => cases unaddressed
  | _ => cases unaddressed

/-! ## Names are resolved -/

/-- A name that is accepted is a name behind a schema, if there is one, neither of them with a dot. -/
theorem Dialect.Admits.exists_parts {dialect : Dialect} {table : String}
    (admitted : dialect.Admits table) :
    ∃ schema name, table = Name.qualify schema name ∧ '.' ∉ name.toList ∧
      (∀ part ∈ schema, '.' ∉ part.toList) ∧ (dialect.supportsSchemas = false → schema = none) := by
  obtain ⟨_, free | ⟨schemas, single, schema, name, rfl, _⟩⟩ := admitted
  · exact ⟨none, table, rfl, free, nofun, fun _ => rfl⟩
  · obtain ⟨freeSchema, freeName⟩ := Name.notMem_of_count single
    refine ⟨some schema, name, rfl, freeName, ?_, fun none => ?_⟩
    · rintro _ ⟨⟩
      exact freeSchema
    · rw [schemas] at none
      cases none

/-- A question is asked, whatever the answer. -/
theorem Session.attempted_ask (transaction : Transaction) (event : String → Event) (sql : String)
    (journal : Journal) :
    (ask transaction event sql journal).2.attempted = journal.attempted ++ [sql] := by
  unfold ask
  simp only
  split <;> rfl

section
variable {dialect : Dialect} {table name : String} {schema : Option String}

theorem Dialect.resolves_qualify (accepted : checkTableName dialect table = .ok ())
    (joined : table = Name.qualify schema name) (free : '.' ∉ name.toList)
    (freeSchema : ∀ part ∈ schema, '.' ∉ part.toList)
    (noSchema : dialect.supportsSchemas = false → schema = none) :
    dialect.Resolves table schema name := by
  have schemaOf : Name.schema? table = schema := joined ▸ Name.schema?_qualify free
  have nameOf : Name.unqualified table = name := joined ▸ Name.unqualified_qualify free
  have segmentsOf : Name.segments table = schema.toList ++ [name] :=
    joined ▸ Name.segments_qualify free freeSchema
  have whole (lacking : dialect.supportsSchemas = false) : table = name := by
    rw [joined, noSchema lacking]
    rfl
  refine ⟨joined, schemaOf, nameOf, ?quoted, ?quotedIndex, ?addressed, ?tableQuestion,
    ?columnQuestion, ?tableAsked, ?columnAsked⟩
  case quoted => rw [segmentsOf, text_path]
  case quotedIndex =>
    intro plan ofTable index
    rw [indexPath, Plan.schema?, ofTable, schemaOf, text_path]
  case addressed =>
    intro plan ofTable statements compiled statement listed
    obtain ⟨_, rfl⟩ := (Plan.statements_splits dialect plan).eq_ok_iff.mp compiled
    constructor
    · intro path given
      rw [Plan.table?_output listed path given, tablePath, ofTable, segmentsOf]
    · obtain ⟨asked, _, member⟩ := List.mem_flatMap.mp listed
      exact index?_commandOutput asked statement member
  case tableQuestion =>
    rw [← reading_tableQuery schemaOf nameOf whole]
    exact read?_text (Query.isPlain_fragment (isPlain_tableQuery dialect table))
      (Query.isSpaced_fragment (isSpaced_tableQuery dialect table))
  case columnQuestion =>
    intro column
    rw [← reading_columnQuery schemaOf nameOf whole]
    exact read?_text (Query.isPlain_fragment (isPlain_columnQuery dialect table column))
      (Query.isSpaced_fragment (isSpaced_columnQuery dialect table column))
  case tableAsked =>
    rintro settings transaction journal rfl
    rw [Session.hasTable, accepted]
    exact Session.attempted_ask ..
  case columnAsked =>
    rintro settings transaction column journal rfl named
    rw [Session.hasColumn, accepted]
    simp only [named, Bool.false_eq_true, if_false]
    exact Session.attempted_ask ..

end

/-- A session accepts exactly the names that the dialect admits, and each of them is one and the same
schema and name wherever it is taken apart. -/
theorem table_names_resolve (dialect : Dialect) (table : String) :
    (checkTableName dialect table = .ok () ↔ dialect.Admits table) ∧
    (checkTableName dialect table = .ok () →
      ∃ schema name, dialect.Resolves table schema name) := by
  refine ⟨checkTableName_eq_ok_iff_admits, fun accepted => ?_⟩
  obtain ⟨schema, name, joined, free, freeSchema, noSchema⟩ :=
    (checkTableName_eq_ok_iff_admits.mp accepted).exists_parts
  exact ⟨schema, name, Dialect.resolves_qualify accepted joined free freeSchema noSchema⟩

/-- A quote in a name is part of the name. -/
theorem table_names_resolve_quotes :
    checkTableName .postgres "app.o'\"x" = .ok () ∧
      Dialect.postgres.Resolves "app.o'\"x" (some "app") "o'\"x" ∧
      tableReading (some "app") "o'\"x" .postgres =
        { template := "SELECT 1 FROM information_schema.tables WHERE table_schema = ? " ++
            "AND table_name = ?"
          identifiers := []
          literals := ["app", "o'\"x"] } := by
  have accepted : checkTableName .postgres "app.o'\"x" = .ok () := by decide +kernel
  obtain ⟨schema, name, resolved⟩ := (table_names_resolve .postgres "app.o'\"x").2 accepted
  have ofSchema : schema = some "app" := by
    rw [← resolved.schemaOf]
    decide +kernel
  have ofName : name = "o'\"x" := by
    rw [← resolved.nameOf]
    decide +kernel
  subst ofSchema ofName
  exact ⟨accepted, resolved, by decide +kernel⟩

end TablePlan

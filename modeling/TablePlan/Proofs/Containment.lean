import TablePlan.Compile.Existence
import TablePlan.Proofs.Commands
import TablePlan.Proofs.Plain

/-!
# Containment of the caller's texts

A plan whose caller writes no SQL compiles to plain statements only, so in every dialect none of
its names, comments, values and defaults leaves its quotes (`texts_contained`).  The queries for
what exists hold no SQL of the caller's at all.
-/

namespace TablePlan

/-- No text that the dialect takes as it stands is used: no default is an expression, a collation
of a column is a quoted name, and there are no names of engines, character sets and collations
among the options of the table. -/
structure Plan.HasNoRawText (dialect : Dialect) (plan : Plan) : Prop where
  defaults : ∀ column ∈ plan.columns, ∀ sql, column.defaultValue ≠ some (.expression sql)
  collations : dialect ≠ .postgres → ∀ column ∈ plan.columns, column.collation = none
  options : dialect = .mysql →
    plan.engine = none ∧ plan.charset = none ∧ plan.collation = none

namespace Compile

open Sql

/-! ## Types -/

theorem isPlain_word {word tail : String} (plainWord : isPlainText word.toList = true)
    (plainTail : isPlainText tail.toList = true) :
    NativeType.IsPlain { word, tail } :=
  ⟨plainWord, nofun, plainTail⟩

/-- A type that takes numbers is plain if its words are. -/
theorem isPlain_numbers {word tail : String} (plainWord : isPlainText word.toList = true)
    (plainTail : isPlainText tail.toList = true) (numbers : List Nat) :
    NativeType.IsPlain { word, arguments := some (numbers.map .number), tail } := by
  refine ⟨plainWord, fun arguments same argument member => ?_, plainTail⟩
  cases same
  obtain ⟨n, _, rfl⟩ := List.mem_map.mp member
  trivial

theorem isPlain_withPrecision {word tail : String} (plainWord : isPlainText word.toList = true)
    (plainTail : isPlainText tail.toList = true) (precision : Option UInt8) :
    (withPrecision word precision tail).IsPlain := by
  cases precision with
  | none => exact isPlain_word plainWord plainTail
  | some digits => exact isPlain_numbers plainWord plainTail [digits.toNat]

theorem isPlain_sized {word : String} (plainWord : isPlainText word.toList = true) (size : Nat) :
    (sized word size).IsPlain :=
  isPlain_numbers plainWord rfl [size]

theorem isPlain_decimalType (precision scale : UInt8) : (decimalType precision scale).IsPlain :=
  isPlain_numbers (by decide) rfl [precision.toNat, scale.toNat]

theorem isPlainText_keyword (kind : SpatialKind) : isPlainText kind.keyword.toList = true := by
  cases kind <;> decide

theorem isPlain_postgresType (type : ColumnType) : (postgresType type).IsPlain := by
  cases type with
  | char | string | enumeration => exact isPlain_sized (by decide) _
  | decimal precision scale => exact isPlain_decimalType precision scale
  | float precision =>
    cases precision with
    | none => exact isPlain_word (by decide) rfl
    | some digits => exact isPlain_sized (by decide) _
  | time | timeTz | dateTime | dateTimeTz | timestamp | timestampTz =>
    exact isPlain_withPrecision (by decide) (by decide) _
  | spatial kind srid =>
    have word : isPlainText "GEOMETRY".toList = true := by decide
    refine ⟨word, fun arguments same argument member => ?_, rfl⟩
    cases same
    rcases List.mem_cons.mp member with rfl | member
    · exact isPlainText_keyword kind
    · obtain ⟨id, _, rfl⟩ := List.mem_map.mp member
      trivial
  | _ => exact isPlain_word (by decide) rfl

theorem isPlain_serialType {type : ColumnType} {serial : NativeType}
    (given : serialType? type = some serial) : serial.IsPlain := by
  cases type with
  | tinyInteger | smallInteger | mediumInteger | integer | bigInteger =>
    cases given
    exact isPlain_word (by decide) rfl
  | _ => cases given

theorem isPlain_mysqlType (type : ColumnType) : (mysqlType type).IsPlain := by
  cases type with
  | boolean | char | string | uuid => exact isPlain_sized (by decide) _
  | decimal precision scale => exact isPlain_decimalType precision scale
  | float | time | timeTz | dateTime | dateTimeTz | timestamp | timestampTz =>
    exact isPlain_withPrecision (by decide) rfl _
  | enumeration allowed =>
    have word : isPlainText "ENUM".toList = true := by decide
    refine ⟨word, fun arguments same argument member => ?_, rfl⟩
    cases same
    obtain ⟨value, _, rfl⟩ := List.mem_map.mp member
    trivial
  | spatial kind srid =>
    cases srid with
    | none => exact isPlain_word (isPlainText_keyword kind) rfl
    | some id =>
      refine isPlain_word (isPlainText_keyword kind) ?_
      have digits : isPlainText (String.ofList (Nat.toDigits 10 id.toNat)).toList = true := by
        rw [String.toList_ofList]
        exact isPlainText_digits id.toNat
      rw [String.toList_append]
      exact isPlainText_append (by decide) digits
  | _ => exact isPlain_word (by decide) rfl

theorem isPlain_sqliteType (type : ColumnType) : (sqliteType type).IsPlain := by
  cases type with
  | spatial kind srid => exact isPlain_word (isPlainText_keyword kind) rfl
  | _ => exact isPlain_word (by decide) rfl

theorem isPlain_nativeType (dialect : Dialect) (column : Column) :
    (nativeType dialect column).IsPlain := by
  cases dialect with
  | postgres =>
    unfold nativeType
    simp only
    split
    · cases serial : serialType? column.type with
      | none => exact isPlain_postgresType column.type
      | some type => exact isPlain_serialType serial
    · exact isPlain_postgresType column.type
  | mysql => exact isPlain_mysqlType column.type
  | sqlite => exact isPlain_sqliteType column.type

/-! ## Default values -/

/-- Digits and a point may stand behind a sign. -/
theorem isPlainText_signed {digits : List Char} (negative : Bool)
    (plain : ∀ c ∈ digits, isPlainChar c = true ∧ c ≠ '-')
    (first : digits.head?.any Char.isAlphanum = true) :
    isPlainText ((if negative then ['-'] else []) ++ digits) = true := by
  have unsigned := isPlainText_of_forall plain
  cases negative with
  | false => exact unsigned
  | true =>
    show (isPlainChar '-' && ('-' != '-' || digits.head?.any Char.isAlphanum) &&
      isPlainText digits) = true
    rw [first, unsigned]
    decide

theorem isAlphanum_of_mem_digits {n : Nat} {c : Char} (member : c ∈ Decimal.digits n) :
    c.isAlphanum = true := by
  have digit : c.isDigit = true := Nat.isDigit_of_mem_toDigits (by decide) (by decide) member
  simp [Char.isAlphanum, digit]

theorem isPlainChar_of_isAlphanum {c : Char} (alphanumeric : c.isAlphanum = true) :
    isPlainChar c = true ∧ c ≠ '-' := by
  constructor
  · simp [isPlainChar, alphanumeric]
  · rintro rfl
    revert alphanumeric
    decide

theorem head_isAlphanum {text : List Char} (nonempty : text ≠ [])
    (alphanumeric : ∀ c ∈ text, c.isAlphanum = true) :
    text.head?.any Char.isAlphanum = true := by
  cases text with
  | nil => exact absurd rfl nonempty
  | cons c rest => exact alphanumeric c List.mem_cons_self

theorem isPlainText_signedDigits (n : Int) : isPlainText (Decimal.signedDigits n) = true := by
  have signed := isPlainText_signed (decide (n < 0))
    (fun c member => isPlainChar_of_isAlphanum (isAlphanum_of_mem_digits member))
    (head_isAlphanum Nat.toDigits_ne_nil fun c => isAlphanum_of_mem_digits (n := n.natAbs))
  unfold Decimal.signedDigits
  by_cases negative : n < 0
  · simpa [negative] using signed
  · simpa [negative] using signed

theorem isAlphanum_of_mem_zeros {count : Nat} {c : Char} (member : c ∈ List.replicate count '0') :
    c.isAlphanum = true := by
  rw [List.eq_of_mem_replicate member]
  decide

/-- A number without an exponent holds digits and at most a point, which is not in front. -/
theorem positional_spec (scaled : Decimal.Scaled) :
    (∀ c ∈ Decimal.positional false scaled, c.isAlphanum = true ∨ c = '.') ∧
      (Decimal.positional false scaled).head?.any Char.isAlphanum = true := by
  unfold Decimal.positional
  by_cases whole : scaled.exponent ≥ 0
  · simp only [whole, ↓reduceIte, Bool.false_eq_true, List.append_nil]
    have all : ∀ c ∈ Decimal.digits scaled.digits ++ List.replicate scaled.exponent.toNat '0',
        c.isAlphanum = true := by
      intro c member
      rcases List.mem_append.mp member with member | member
      · exact isAlphanum_of_mem_digits member
      · exact isAlphanum_of_mem_zeros member
    have nonempty : Decimal.digits scaled.digits ≠ [] := Nat.toDigits_ne_nil
    exact ⟨fun c member => .inl (all c member), head_isAlphanum (by simp [nonempty]) all⟩
  · simp only [whole, ↓reduceIte]
    generalize places : (-scaled.exponent).toNat = count
    generalize padding : List.replicate (count + 1 - (Decimal.digits scaled.digits).length) '0' ++
      Decimal.digits scaled.digits = padded
    have all {c : Char} (member : c ∈ padded) : c.isAlphanum = true := by
      rw [← padding] at member
      rcases List.mem_append.mp member with member | member
      · exact isAlphanum_of_mem_zeros member
      · exact isAlphanum_of_mem_digits member
    have longer : count < padded.length := by
      rw [← padding, List.length_append, List.length_replicate]
      omega
    have front : padded.take (padded.length - count) ≠ [] := by
      rw [Ne, List.take_eq_nil_iff, ← List.length_eq_zero_iff]
      omega
    constructor
    · intro c member
      rcases List.mem_append.mp member with member | member
      · exact .inl (all (List.mem_of_mem_take member))
      · rcases List.mem_cons.mp member with rfl | member
        · exact .inr rfl
        · exact .inl (all (List.mem_of_mem_drop member))
    · rw [List.head?_append_of_ne_nil _ front]
      exact head_isAlphanum front fun c member => all (List.mem_of_mem_take member)

theorem isPlainText_floatText (value : Binary64) : isPlainText (floatText value).toList = true := by
  unfold floatText
  split
  · decide
  · split
    · rw [String.toList_ofList]
      obtain ⟨digits, first⟩ := positional_spec (Decimal.shortest .away value.magnitude)
      refine isPlainText_signed value.isNegative (fun c member => ?_) first
      rcases digits c member with alphanumeric | rfl
      · exact isPlainChar_of_isAlphanum alphanumeric
      · decide
    · split <;> decide

/-- The characters of a keyword for a current time stay plain in lower case. -/
theorem isPlainChar_of_toUpper {c : Char}
    (upper : isPlainChar c.toUpper = true ∧ c.toUpper ≠ '-') : isPlainChar c = true ∧ c ≠ '-' := by
  by_cases lower : 'a'.val ≤ c.val ∧ c.val ≤ 'z'.val
  · refine isPlainChar_of_isAlphanum ?_
    have letter : c.isAlphanum =
        (c.isUpper || (decide ('a'.val ≤ c.val) && decide (c.val ≤ 'z'.val)) || c.isDigit) := rfl
    rw [letter, decide_eq_true lower.1, decide_eq_true lower.2, Bool.and_self, Bool.or_true,
      Bool.true_or]
  · have kept : c.toUpper = c := dif_neg lower
    rwa [kept] at upper

theorem isPlainText_currentTime {text : String} (current : isCurrentTime text = true) :
    isPlainText text.toList = true := by
  have upper : ∀ keyword ∈ currentTimeKeywords, ∀ c ∈ keyword.toList,
      isPlainChar c = true ∧ c ≠ '-' := by
    have all : (currentTimeKeywords.all fun keyword =>
        keyword.toList.all fun c => isPlainChar c && c != '-') = true := rfl
    simpa only [List.all_eq_true, Bool.and_eq_true, bne_iff_ne] using all
  refine isPlainText_of_forall fun c member => isPlainChar_of_toUpper ?_
  refine upper _ (List.contains_iff_mem.mp current) _ ?_
  rw [String.toList_map]
  exact List.mem_map_of_mem member

theorem isPlain_defaultPiece (dialect : Dialect) (type : ColumnType) {value : DefaultValue}
    (data : ∀ sql, value ≠ .expression sql) : (defaultPiece dialect type value).IsPlain := by
  cases value with
  | null => exact (by decide : isPlainText "NULL".toList = true)
  | boolean value =>
    show isPlainText (booleanWord dialect value).toList = true
    cases dialect <;> cases value <;> decide
  | integer value =>
    show isPlainText (String.ofList (Decimal.signedDigits value.toInt)).toList = true
    rw [String.toList_ofList]
    exact isPlainText_signedDigits value.toInt
  | float value => exact isPlainText_floatText value
  | string text =>
    unfold defaultPiece
    simp only
    split
    · next keyword =>
      rw [Bool.and_eq_true] at keyword
      exact isPlainText_currentTime keyword.2
    · trivial
  | expression sql => exact absurd rfl (data sql)

/-! ## Columns -/

theorem isPlain_enumerationCheck {column : Column} {clause : ColumnClause}
    (check : enumerationCheck? column = some clause) : clause.IsPlain := by
  unfold enumerationCheck? at check
  split at check
  · cases check
    trivial
  · cases check

section
variable {dialect : Dialect} {plan : Plan} (noRaw : plan.HasNoRawText dialect) {column : Column}
  (member : column ∈ plan.columns)
include noRaw member

theorem isPlain_defaultClause : ∀ clause ∈ defaultClause dialect column, clause.IsPlain := by
  intro clause listed
  obtain ⟨value, given, rfl⟩ := List.mem_map.mp listed
  refine isPlain_defaultPiece dialect column.type ?_
  intro sql same
  rw [Option.mem_toList, same] at given
  exact noRaw.defaults column member sql given

theorem isPlain_postgresClauses (postgres : dialect = .postgres) :
    ∀ clause ∈ postgresClauses column, clause.IsPlain := by
  subst postgres
  have default := isPlain_defaultClause noRaw member
  intro clause listed
  simp only [postgresClauses, List.mem_append, mem_only, List.mem_map, Option.mem_toList] at listed
  rcases listed with ((⟨name, _, rfl⟩ | ⟨_, rfl⟩) | value) | check
  · trivial
  · trivial
  · split at value
    · cases value
    · exact default clause value
  · exact isPlain_enumerationCheck check

theorem isPlain_mysqlClauses (mysql : dialect = .mysql) :
    ∀ clause ∈ mysqlClauses column, clause.IsPlain := by
  subst mysql
  have default := isPlain_defaultClause noRaw member
  have collation := noRaw.collations nofun column member
  intro clause listed
  simp only [mysqlClauses, collation, List.mem_append, mem_only, List.mem_map, Option.mem_toList,
    List.mem_singleton] at listed
  rcases listed with
    (((((⟨_, rfl⟩ | ⟨_, none, _⟩) | rfl) | value) | ⟨_, rfl⟩) | ⟨_, rfl⟩) | ⟨text, _, rfl⟩
  · trivial
  · cases none
  · split <;> trivial
  · exact default clause value
  · trivial
  · trivial
  · trivial

theorem isPlain_sqliteClauses (sqlite : dialect = .sqlite) :
    ∀ clause ∈ sqliteClauses plan column, clause.IsPlain := by
  subst sqlite
  have default := isPlain_defaultClause noRaw member
  have collation := noRaw.collations nofun column member
  intro clause listed
  simp only [sqliteClauses, collation, List.mem_append, mem_only, List.mem_map,
    Option.mem_toList] at listed
  rcases listed with
    ((((⟨_, rfl⟩ | ⟨_, rfl⟩) | value) | check) | ⟨_, none, _⟩) | references
  · trivial
  · trivial
  · exact default clause value
  · exact isPlain_enumerationCheck check
  · cases none
  · split at references
    · cases references
    · obtain ⟨key, _, rfl⟩ := List.mem_map.mp references
      trivial

theorem isPlain_columnDefinition : (columnDefinition dialect plan column).IsPlain := by
  refine ⟨isPlain_nativeType dialect column, ?_⟩
  cases dialect with
  | postgres => exact isPlain_postgresClauses noRaw member rfl
  | mysql => exact isPlain_mysqlClauses noRaw member rfl
  | sqlite => exact isPlain_sqliteClauses noRaw member rfl

/-- The change of a column in postgres states its type and its default. -/
theorem isPlain_changeColumn (postgres : dialect = .postgres) :
    (changeColumn plan column).IsPlain := by
  subst postgres
  intro alteration listed
  simp only [List.mem_append, mem_only, List.mem_cons, List.not_mem_nil, or_false] at listed
  rcases listed with (rfl | rfl) | ⟨_, rfl⟩
  · exact isPlain_postgresType column.type
  · split <;> trivial
  · cases given : column.defaultValue with
    | none => trivial
    | some value =>
      refine isPlain_defaultPiece .postgres column.type ?_
      intro sql same
      exact noRaw.defaults column member sql (same ▸ given)

end

/-! ## Commands -/

/-- A single action that states no column definition holds no raw text. -/
theorem isPlain_action {table : Path} {alteration : Alteration} (plain : alteration.IsPlain) :
    (Statement.alterTable table [alteration]).IsPlain :=
  List.forall_mem_singleton.mpr plain

/-- A statement that declares nothing holds no raw text, whatever the plan says. -/
theorem isPlain_of_declaresNothing {statement : Statement} (nothing : statement.DeclaresNothing) :
    statement.IsPlain := by
  cases statement with
  | alterTable table alterations =>
    intro alteration listed
    have nothing : alteration.DeclaresNothing := nothing alteration listed
    cases alteration with
    | addColumn | modifyColumn | setType | setDefault => exact nothing.elim
    | _ => trivial
  | createTable | createIndex => exact nothing.elim
  | _ => trivial

section
variable {dialect : Dialect} {plan : Plan}

theorem isPlain_columnComments (columns : List Column) :
    ∀ statement ∈ columnComments dialect plan columns, statement.IsPlain := by
  intro statement listed
  obtain ⟨column, text, rfl⟩ := exists_of_mem_columnComments listed
  trivial

theorem isPlain_indexOutput {index : Index} {statement : Statement}
    (given : indexOutput dialect plan index = some statement) : statement.IsPlain := by
  have plainWords : isPlainText "".toList = true ∧ isPlainText "UNIQUE ".toList = true ∧
      isPlainText "FULLTEXT ".toList = true := by decide
  unfold indexOutput at given
  split at given
  · split at given
    · cases given
    · cases given
      exact isPlain_action trivial
  · split at given
    · cases given
    · unfold indexCreation? at given
      split at given
      · cases given
        exact plainWords.2.1
      · unfold fullTextIndex? at given
        cases dialect <;> cases given
        · exact plainWords.1
        · exact plainWords.2.2
      · cases given
        exact plainWords.1

theorem isPlain_definitionsOutput :
    ∀ statement ∈ definitionsOutput dialect plan, statement.IsPlain := by
  intro statement listed
  rcases List.mem_append.mp listed with listed | listed
  · obtain ⟨index, _, given⟩ := List.mem_filterMap.mp listed
    exact isPlain_indexOutput given
  · obtain ⟨key, _, given⟩ := List.mem_filterMap.mp listed
    unfold foreignKeyOutput at given
    split at given
    · cases given
    · cases given
      exact isPlain_action trivial

theorem isPlain_tableConstraintsOutput :
    ∀ element ∈ tableConstraintsOutput dialect plan, element.IsPlain := by
  intro element listed
  simp only [tableConstraintsOutput, List.mem_append] at listed
  rcases listed with (primary | key) | foreign
  · unfold primaryKeyElementsOutput at primary
    split at primary
    · cases primary
    · obtain ⟨_, _, rfl⟩ := List.mem_map.mp primary
      trivial
  · unfold inlineKeysOutput at key
    split at key
    · obtain ⟨_, _, rfl⟩ := List.mem_map.mp key
      trivial
    · cases key
  · obtain ⟨_, _, rfl⟩ := List.mem_map.mp foreign
    trivial

theorem isPlain_tableCommentOutput :
    ∀ statement ∈ tableCommentOutput dialect plan, statement.IsPlain := by
  intro statement listed
  cases dialect with
  | sqlite => cases listed
  | postgres =>
    obtain ⟨_, _, rfl⟩ := List.mem_map.mp listed
    trivial
  | mysql =>
    unfold tableCommentOutput at listed
    simp only at listed
    split at listed
    · cases listed
    · obtain ⟨_, _, rfl⟩ := List.mem_map.mp listed
      exact isPlain_action trivial

variable (noRaw : plan.HasNoRawText dialect)
include noRaw

theorem isPlain_tableOptions : ∀ option ∈ tableOptions dialect plan, option.IsPlain := by
  intro option listed
  cases dialect with
  | mysql =>
    obtain ⟨engine, charset, collation⟩ := noRaw.options rfl
    simp only [tableOptions, engine, charset, collation, List.mem_append, List.mem_map,
      Option.mem_toList] at listed
    rcases listed with ((⟨_, none, _⟩ | ⟨_, none, _⟩) | ⟨_, none, _⟩) | ⟨text, _, rfl⟩
    · cases none
    · cases none
    · cases none
    · trivial
  | postgres | sqlite => cases listed

theorem isPlain_createTableOutput (ifNotExists : Bool) :
    ∀ statement ∈ createTableOutput dialect plan ifNotExists, statement.IsPlain := by
  intro statement listed
  rcases List.mem_cons.mp listed with rfl | comment
  · refine ⟨fun element listed => ?_, isPlain_tableOptions noRaw⟩
    rcases List.mem_append.mp listed with listed | constraint
    · obtain ⟨column, member, rfl⟩ := List.mem_map.mp listed
      exact isPlain_columnDefinition noRaw member
    · exact isPlain_tableConstraintsOutput element constraint
  · exact isPlain_columnComments plan.columns statement comment

theorem isPlain_columnAdditions :
    ∀ alteration ∈ columnAdditions dialect plan, alteration.IsPlain := by
  intro alteration listed
  obtain ⟨column, added, rfl⟩ := List.mem_map.mp listed
  exact isPlain_columnDefinition noRaw (List.mem_of_mem_filter added)

theorem isPlain_addColumnsOutput :
    ∀ statement ∈ addColumnsOutput dialect plan, statement.IsPlain := by
  have additions := isPlain_columnAdditions noRaw
  intro statement listed
  unfold addColumnsOutput at listed
  split at listed
  · obtain ⟨addition, member, rfl⟩ := List.mem_map.mp listed
    exact List.forall_mem_singleton.mpr (additions addition member)
  · split at listed
    · cases listed
    · rcases List.mem_cons.mp listed with rfl | comment
      · refine List.forall_mem_append.mpr ⟨additions, fun alteration listed => ?_⟩
        obtain ⟨_, _, rfl⟩ := List.mem_map.mp listed
        trivial
      · exact isPlain_columnComments _ statement comment

theorem isPlain_changeColumnsOutput :
    ∀ statement ∈ changeColumnsOutput dialect plan, statement.IsPlain := by
  intro statement listed
  cases dialect with
  | postgres =>
    rcases List.mem_append.mp listed with listed | comment
    · obtain ⟨column, changed, rfl⟩ := List.mem_map.mp listed
      exact isPlain_changeColumn noRaw (List.mem_of_mem_filter changed) rfl
    · exact isPlain_columnComments _ statement comment
  | mysql =>
    simp only [changeColumnsOutput] at listed
    split at listed
    · cases listed
    · cases List.mem_singleton.mp listed
      intro alteration listed
      obtain ⟨column, changed, rfl⟩ := List.mem_map.mp listed
      exact isPlain_columnDefinition noRaw (List.mem_of_mem_filter changed)
  | sqlite => cases listed

theorem isPlain_commandOutput (asked : Command) :
    ∀ statement ∈ commandOutput dialect plan asked, statement.IsPlain := by
  cases asked with
  | create | createIfNotExists =>
    exact List.forall_mem_append.mpr
      ⟨isPlain_createTableOutput noRaw _, isPlain_definitionsOutput⟩
  | add =>
    exact List.forall_mem_append.mpr ⟨isPlain_addColumnsOutput noRaw, isPlain_definitionsOutput⟩
  | change => exact isPlain_changeColumnsOutput noRaw
  | comment => exact isPlain_tableCommentOutput
  | _ =>
    intro statement listed
    exact isPlain_of_declaresNothing (declaresNothing_commandOutput rfl statement listed)

end

/-! ## Queries for what exists -/

theorem isPlain_tableConditions (dialect : Dialect) (table : String) :
    ∀ condition ∈ tableConditions (currentSchema dialect) table,
      isPlainText condition.1.toList = true ∧ condition.2.IsPlain := by
  have words : isPlainText "table_schema".toList = true ∧ isPlainText "table_name".toList = true := by
    decide
  have schema : (schemaPiece (currentSchema dialect) table).IsPlain := by
    unfold schemaPiece
    split
    · show isPlainText (currentSchema dialect).toList = true
      cases dialect <;> decide
    · trivial
  intro condition listed
  simp only [tableConditions, List.mem_cons, List.not_mem_nil, or_false] at listed
  rcases listed with rfl | rfl
  · exact ⟨words.1, schema⟩
  · exact ⟨words.2, trivial⟩

theorem isPlain_tableQuery (dialect : Dialect) (table : String) :
    (tableQuery dialect table).IsPlain := by
  cases dialect with
  | sqlite => exact ⟨by simp +decide [tableQuery], by simp +decide [tableQuery]⟩
  | postgres | mysql => exact ⟨by simp +decide [tableQuery], isPlain_tableConditions _ table⟩

theorem isSpaced_tableQuery (dialect : Dialect) (table : String) :
    (tableQuery dialect table).source.IsSpaced := by
  cases dialect <;> simp [tableQuery]

theorem isPlain_columnQuery (dialect : Dialect) (table column : String) :
    (columnQuery dialect table column).IsPlain := by
  cases dialect with
  | sqlite => exact ⟨by simp +decide [columnQuery], by simp +decide [columnQuery]⟩
  | postgres | mysql =>
    refine ⟨by simp +decide [columnQuery], ?_⟩
    refine List.forall_mem_append.mpr ⟨isPlain_tableConditions _ table, ?_⟩
    simp +decide

theorem isSpaced_columnQuery (dialect : Dialect) (table column : String) :
    (columnQuery dialect table column).source.IsSpaced := by
  cases dialect <;> simp +decide [columnQuery]

theorem contained_tableQuery (dialect : Dialect) (table : String) :
    Contained dialect.nameQuote ((tableQuery dialect table).text dialect) :=
  Query.contained_text (isPlain_tableQuery dialect table) (isSpaced_tableQuery dialect table)

theorem contained_columnQuery (dialect : Dialect) (table column : String) :
    Contained dialect.nameQuote ((columnQuery dialect table column).text dialect) :=
  Query.contained_text (isPlain_columnQuery dialect table column)
    (isSpaced_columnQuery dialect table column)

end Compile

open Compile Sql

/-- In every dialect, whatever a plan without SQL of the caller's compiles to is contained: no name,
comment, value or default leaves its quotes, begins a comment or ends its statement.  So are the
queries for a table and for a column, whatever they are called. -/
theorem texts_contained (dialect : Dialect) :
    (∀ plan : Plan, plan.HasNoRawText dialect → ∀ texts, plan.toSql dialect = .ok texts →
      ∀ text ∈ texts, Contained dialect.nameQuote text) ∧
    (∀ table, Contained dialect.nameQuote ((tableQuery dialect table).text dialect)) ∧
    ∀ table column, Contained dialect.nameQuote ((columnQuery dialect table column).text dialect) := by
  refine ⟨?_, contained_tableQuery dialect, contained_columnQuery dialect⟩
  intro plan noRaw texts compiled text listed
  obtain ⟨_, rfl⟩ := (Plan.toSql_splits dialect plan).eq_ok_iff.mp compiled
  obtain ⟨statement, given, rfl⟩ := List.mem_map.mp listed
  obtain ⟨asked, _, inside⟩ := List.mem_flatMap.mp given
  exact Statement.contained_text (isPlain_commandOutput noRaw asked statement inside)

theorem texts_contained_dashesInComment :
    let plan : Plan :=
      { table := "t"
        columns := [{ name := "a", type := .date, comment := some "it's -- a", unsigned := true }]
        requested := [.create] }
    let text := "CREATE TABLE `t` (`a` DATE NOT NULL COMMENT 'it''s -- a')"
    plan.toSql .mysql = .ok [text] ∧ Contained Dialect.mysql.nameQuote text := by
  intro plan text
  have noRaw : plan.HasNoRawText .mysql := by
    refine ⟨fun column listed sql => ?_, fun _ column listed => ?_, fun _ => ⟨rfl, rfl, rfl⟩⟩
    · cases List.mem_singleton.mp listed
      exact nofun
    · cases List.mem_singleton.mp listed
      rfl
  have compiled : plan.toSql .mysql = .ok [text] := by decide
  exact ⟨compiled, (texts_contained .mysql).1 plan noRaw [text] compiled text List.mem_cons_self⟩

end TablePlan

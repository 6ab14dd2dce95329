import TablePlan.Proofs.Declarations

/-!
# Guarded statements

Which statements may be repeated, and where their text says so.  Main statements: a guarded statement
begins with words that guard it (`begins_of_isRepeatable`), and the guard of an index stands behind the
words that create it (`addsGuard_text`).  The keys and foreign keys inside a table are read off its
creation, so that they can be compared with the statements that would add them.
-/

namespace TablePlan

namespace Sql

/-! ## Guards -/

/-- Whether a text begins with some words. -/
abbrev Begins (words text : String) : Prop :=
  words.toList <+: text.toList

/-- What the statements of a repeatable creation begin with. -/
def repeatableWords : List String :=
  ["CREATE TABLE IF NOT EXISTS ", "CREATE INDEX IF NOT EXISTS ",
   "CREATE UNIQUE INDEX IF NOT EXISTS ", "COMMENT ON "]

/-- What the statements that create an index begin with. -/
def indexWords : List String :=
  ["CREATE INDEX ", "CREATE UNIQUE INDEX "]

/-- Whether a text creates an index, in the words that postgres and sqlite have for it. -/
def isIndexText (text : String) : Bool :=
  indexWords.any fun words => Begins words text

/-- The second text is the first one with a guard behind the words that create an index. -/
def AddsGuard (plain guarded : String) : Prop :=
  ∃ words ∈ indexWords, ∃ rest, plain = words ++ rest ∧ guarded = words ++ "IF NOT EXISTS " ++ rest

namespace Statement

/-- A statement that may be repeated: a guarded creation or a comment. -/
def IsRepeatable : Statement → Prop
  | .createTable ifNotExists .. => ifNotExists = true
  | .createIndex index =>
    index.ifNotExists = true ∧ (index.qualifier = "" ∨ index.qualifier = "UNIQUE ")
  | .commentOnTable .. | .commentOnColumn .. => True
  | _ => False

/-- A creation of an index without a guard. -/
def IsPlainIndex : Statement → Prop
  | .createIndex index =>
    index.ifNotExists = false ∧ (index.qualifier = "" ∨ index.qualifier = "UNIQUE ")
  | _ => False

/-- Whether a statement attaches a comment and does nothing else. -/
def isComment : Statement → Bool
  | .commentOnTable .. | .commentOnColumn .. => true
  | _ => false

/-- The statement with a guard, if it creates an index. -/
def guardIndex : Statement → Statement
  | .createIndex index => .createIndex { index with ifNotExists := true }
  | other => other

end Statement

theorem Fragment.text_bare (dialect : Dialect) (words : String) (rest : Fragment) :
    Fragment.text dialect (.bare words :: rest) = words ++ Fragment.text dialect rest := by
  simp [Fragment.text, Piece.chars, String.ofList_append]

theorem begins_append (words rest : String) : Begins words (words ++ rest) := by
  simp [Begins]

/-- A text begins with the words that its first piece stands for. -/
theorem begins_bare (dialect : Dialect) (words : String) (rest : Fragment) :
    Begins words (Fragment.text dialect (.bare words :: rest)) := by
  rw [Fragment.text_bare]
  exact begins_append _ _

/-- What the creation of an index says behind its leading words and its guard. -/
def IndexCreation.remainder (dialect : Dialect) (index : IndexCreation) : String :=
  Fragment.text dialect
    (.name index.name :: .bare " ON " :: index.table.fragment ++ index.target.fragment)

theorem text_createIndex (dialect : Dialect) (index : IndexCreation) :
    (Statement.createIndex index).text dialect =
      "CREATE " ++ (index.qualifier ++ ("INDEX " ++
        ((if index.ifNotExists then "IF NOT EXISTS " else "") ++ index.remainder dialect))) := by
  unfold Statement.text Statement.fragment IndexCreation.fragment ifNotExistsPiece
  simp only [List.cons_append, Fragment.text_bare, IndexCreation.remainder]

/-- The statements of a repeatable creation show that they are. -/
theorem begins_of_isRepeatable (dialect : Dialect) {statement : Statement}
    (repeatable : statement.IsRepeatable) :
    ∃ words ∈ repeatableWords, Begins words (statement.text dialect) := by
  cases statement with
  | createTable ifNotExists table elements options =>
    cases repeatable
    refine ⟨"CREATE TABLE IF NOT EXISTS ", by simp [repeatableWords], ?_⟩
    simp only [Statement.text, Statement.fragment, ifNotExistsPiece, List.cons_append,
      Fragment.text_bare, ← String.append_assoc]
    exact begins_append _ _
  | createIndex index =>
    obtain ⟨guarded, none | unique⟩ := repeatable
    · refine ⟨"CREATE INDEX IF NOT EXISTS ", by simp [repeatableWords], ?_⟩
      rw [text_createIndex, guarded, none]
      simp only [← String.append_assoc]
      exact begins_append _ _
    · refine ⟨"CREATE UNIQUE INDEX IF NOT EXISTS ", by simp [repeatableWords], ?_⟩
      rw [text_createIndex, guarded, unique]
      simp only [← String.append_assoc]
      exact begins_append _ _
  | commentOnTable table text =>
    refine ⟨"COMMENT ON ", by simp [repeatableWords], ?_⟩
    have words : Begins "COMMENT ON " "COMMENT ON TABLE " := by decide +kernel
    exact words.trans (begins_bare dialect "COMMENT ON TABLE " _)
  | commentOnColumn table column text =>
    refine ⟨"COMMENT ON ", by simp [repeatableWords], ?_⟩
    have words : Begins "COMMENT ON " "COMMENT ON COLUMN " := by decide +kernel
    exact words.trans (begins_bare dialect "COMMENT ON COLUMN " _)
  | _ => exact repeatable.elim

/-- Words of which neither begins with the other do not begin the same text. -/
theorem not_begins_of_apart {words other text : String} (begins : Begins words text)
    (apart : ¬ Begins words other ∧ ¬ Begins other words) : ¬ Begins other text := by
  intro begins'
  rcases List.prefix_or_prefix_of_prefix begins begins' with shorter | longer
  · exact apart.1 shorter
  · exact apart.2 longer

/-- The statements of a repeatable creation alter no table. -/
theorem not_begins_alterTable {words text : String} (listed : words ∈ repeatableWords)
    (begins : Begins words text) : ¬ Begins "ALTER TABLE" text := by
  have apart : ∀ words ∈ repeatableWords,
      ¬ Begins words "ALTER TABLE" ∧ ¬ Begins "ALTER TABLE" words := by decide +kernel
  exact not_begins_of_apart begins (apart words listed)

theorem isIndexText_eq_false {words text : String} (begins : Begins words text)
    (apart : ∀ other ∈ indexWords, ¬ Begins words other ∧ ¬ Begins other words) :
    isIndexText text = false := by
  rw [isIndexText, List.any_eq_false]
  intro other listed
  simpa using not_begins_of_apart begins (apart other listed)

/-- Comments, creations of tables and alterations create no index. -/
theorem isIndexText_other (dialect : Dialect) {statement : Statement}
    (other : statement.isComment = true ∨ statement.createsTable = true ∨
      ∃ table alterations, statement = .alterTable table alterations) :
    isIndexText (statement.text dialect) = false := by
  cases statement with
  | createTable ifNotExists table elements options =>
    exact isIndexText_eq_false (begins_bare dialect "CREATE TABLE " _) (by decide +kernel)
  | alterTable table alterations =>
    exact isIndexText_eq_false (begins_bare dialect "ALTER TABLE " _) (by decide +kernel)
  | commentOnTable table text =>
    exact isIndexText_eq_false (begins_bare dialect "COMMENT ON TABLE " _) (by decide +kernel)
  | commentOnColumn table column text =>
    exact isIndexText_eq_false (begins_bare dialect "COMMENT ON COLUMN " _) (by decide +kernel)
  | _ => simp [Statement.isComment, Statement.createsTable] at other

theorem exists_of_isPlainIndex {statement : Statement} (plain : statement.IsPlainIndex) :
    ∃ index : IndexCreation, statement = .createIndex index ∧ index.ifNotExists = false ∧
      (index.qualifier = "" ∨ index.qualifier = "UNIQUE ") := by
  cases statement with
  | createIndex index => exact ⟨index, rfl, plain⟩
  | _ => exact plain.elim

theorem isRepeatable_guardIndex {statement : Statement} (plain : statement.IsPlainIndex) :
    statement.guardIndex.IsRepeatable := by
  obtain ⟨index, rfl, -, qualifier⟩ := exists_of_isPlainIndex plain
  exact ⟨rfl, qualifier⟩

theorem isRepeatable_of_isComment {statement : Statement} (comment : statement.isComment = true) :
    statement.IsRepeatable := by
  cases statement with
  | commentOnTable | commentOnColumn => trivial
  | _ => cases comment

theorem isIndexText_of_addsGuard {plain guarded : String} (adds : AddsGuard plain guarded) :
    isIndexText plain = true ∧ isIndexText guarded = true := by
  obtain ⟨words, listed, rest, rfl, rfl⟩ := adds
  constructor
  · exact List.any_eq_true.mpr ⟨words, listed, decide_eq_true (begins_append _ _)⟩
  · rw [String.append_assoc]
    exact List.any_eq_true.mpr ⟨words, listed, decide_eq_true (begins_append _ _)⟩

/-- A guard stands where it belongs. -/
theorem addsGuard_text (dialect : Dialect) {statement : Statement}
    (unguarded : statement.IsPlainIndex) :
    AddsGuard (statement.text dialect) (statement.guardIndex.text dialect) := by
  obtain ⟨index, rfl, plain, qualifier⟩ := exists_of_isPlainIndex unguarded
  have remainder : ({ index with ifNotExists := true } : IndexCreation).remainder dialect =
      index.remainder dialect := rfl
  rw [Statement.guardIndex, text_createIndex, text_createIndex, plain, remainder]
  rcases qualifier with none | unique
  · refine ⟨"CREATE INDEX ", by simp [indexWords], index.remainder dialect, ?_, ?_⟩
    · simp only [none, ← String.append_assoc]
      rfl
    · simp only [none, ← String.append_assoc]
      rfl
  · refine ⟨"CREATE UNIQUE INDEX ", by simp [indexWords], index.remainder dialect, ?_, ?_⟩
    · simp only [unique, ← String.append_assoc]
      rfl
    · simp only [unique, ← String.append_assoc]
      rfl

/-- The texts that create an index are those of the statements that do. -/
theorem filter_isIndexText {dialect : Dialect} {before indexes behind : List Statement}
    (created : ∀ statement ∈ indexes, isIndexText (statement.text dialect) = true)
    (other : ∀ statement ∈ before ++ behind, isIndexText (statement.text dialect) = false) :
    ((before ++ indexes ++ behind).map (Statement.text dialect)).filter isIndexText =
      indexes.map (Statement.text dialect) := by
  have none (others : List Statement) (part : others ⊆ before ++ behind) :
      others.filter (isIndexText ∘ Statement.text dialect) = [] := by
    rw [List.filter_eq_nil_iff]
    intro statement listed
    simp [other statement (part listed)]
  have all : indexes.filter (isIndexText ∘ Statement.text dialect) = indexes :=
    List.filter_eq_self.mpr created
  rw [List.filter_map, List.filter_append, List.filter_append, all,
    none before (List.subset_append_left _ _), none behind (List.subset_append_right _ _),
    List.nil_append, List.append_nil]

/-! ## Keys and foreign keys -/

/-- The keys inside a new table, each with its access method. -/
def TableElement.keys : TableElement → List (IndexDeclaration × Option IndexMethod)
  | .key kind name columns method => [({ kind, name := some name, columns }, method)]
  | _ => []

/-- The access method of an index, before or behind its columns. -/
def IndexTarget.method : IndexTarget → Option IndexMethod
  | .columns methodBefore _ methodAfter => methodBefore.or methodAfter
  | .textVectors _ => none

/-- A constraint, if it is a foreign key. -/
def Constraint.foreignKeys : Constraint → List Constraint
  | .foreignKey name column target => [.foreignKey name column target]
  | .primaryKey .. => []

/-- The foreign key that stands inside a new table. -/
def TableElement.foreignKeys : TableElement → List Constraint
  | .constraint stated => stated.foreignKeys
  | _ => []

/-- The foreign key that an alteration adds. -/
def Alteration.foreignKeys : Alteration → List Constraint
  | .addConstraint stated => stated.foreignKeys
  | _ => []

namespace Statement

/-- The keys inside the table that a statement creates. -/
def inlineKeys : Statement → List (IndexDeclaration × Option IndexMethod)
  | .createTable _ _ elements _ => elements.flatMap TableElement.keys
  | _ => []

/-- The index that a statement creates. -/
def createdIndexes : Statement → List (IndexDeclaration × Option IndexMethod)
  | .createIndex index => [(index.declaration, index.target.method)]
  | _ => []

/-- The foreign keys inside the table that a statement creates. -/
def inlineForeignKeys : Statement → List Constraint
  | .createTable _ _ elements _ => elements.flatMap TableElement.foreignKeys
  | _ => []

/-- The foreign keys that a statement adds to a table. -/
def addedForeignKeys : Statement → List Constraint
  | .alterTable _ alterations => alterations.flatMap Alteration.foreignKeys
  | _ => []

end Statement

end Sql

end TablePlan

import Mathlib.Data.List.Nodup
import TablePlan.Proofs.PrimaryKeys

/-!
# Names that are generated

An index or a foreign key without a name of its own gets a conventional one, which tells its kind, the
table, and its columns joined by underscores, or the table that it refers to.  What the name leaves
out, or joins alike, it does not tell apart (`names_collide`).  Main statement: the generated names of
a plan are distinct exactly when the joined columns of the indexes of each kind and the referenced
tables are, and then the statements never give one name to two things (`generated_names_distinct`).
-/

namespace TablePlan

/-! ## What a conventional name tells -/

namespace Name

/-- The letters that the conventional name of an index of some kind begins with. -/
def indexMark : IndexKind → List Char
  | .index => ['i', 'd']
  | .unique => ['u', 'k']
  | .primary => ['p', 'k']
  | .fullText => ['f', 't']

theorem take_index (table : String) (kind : IndexKind) (columns : List String) :
    (index table kind columns).toList.take 2 = indexMark kind := by
  cases kind <;> simp [index, primaryKey, indexMark]

theorem take_foreignKey (table referenced : String) :
    (foreignKey table referenced).toList.take 2 = ['f', 'k'] := by
  simp [foreignKey]

theorem index_ne_foreignKey (table : String) (kind : IndexKind) (columns : List String)
    (referenced : String) : index table kind columns ≠ foreignKey table referenced := by
  intro same
  have marks := congrArg (fun name => name.toList.take 2) same
  simp only [take_index, take_foreignKey] at marks
  cases kind <;> cases marks

theorem indexMark_injective : Function.Injective indexMark := by
  intro first second same
  cases first <;> cases second <;> simp [indexMark] at same ⊢

theorem kind_eq_of_index_eq {table : String} {first second : IndexKind} {columns others : List String}
    (same : index table first columns = index table second others) : first = second := by
  have marks := congrArg (fun name => name.toList.take 2) same
  simp only [take_index] at marks
  exact indexMark_injective marks

/-- The conventional names of two indexes are the same exactly when the indexes are of one kind and
their columns are joined alike, unless both are primary keys. -/
theorem index_eq_index_iff {table : String} {first second : IndexKind} {columns others : List String}
    (separate : ¬ (first = .primary ∧ second = .primary)) :
    index table first columns = index table second others ↔
      first = second ∧ "_".intercalate columns = "_".intercalate others := by
  constructor
  · intro same
    have kinds := kind_eq_of_index_eq same
    subst kinds
    refine ⟨rfl, ?_⟩
    cases first with
    | primary => exact absurd ⟨rfl, rfl⟩ separate
    | index | unique | fullText => simpa [index] using same
  · rintro ⟨rfl, joined⟩
    simp only [index, joined]

theorem foreignKey_eq_foreignKey_iff {table first second : String} :
    foreignKey table first = foreignKey table second ↔ unqualified first = unqualified second := by
  simp [foreignKey]

end Name

/-! ## What has a name -/

/-- The indexes that a column asks for by its flags. -/
def Column.flaggedIndexes (column : Column) : List Index :=
  Compile.only column.unique
    { kind := .unique, columns := [column.name], name := column.uniqueName } ++
  Compile.only column.index
    { kind := .index, columns := [column.name], name := column.indexName }

/-- A flag of a column asks for a unique or a plain index. -/
theorem Column.kind_ne_primary_of_mem {column : Column} {index : Index}
    (flag : index ∈ column.flaggedIndexes) : index.kind ≠ .primary := by
  rcases List.mem_append.mp flag with unique | plain
  · rw [(Compile.mem_only.mp unique).2]
    exact nofun
  · rw [(Compile.mem_only.mp plain).2]
    exact nofun

namespace Plan

/-- The indexes of a plan: those that its columns ask for, and those that it declares. -/
def allIndexes (plan : Plan) : List Index :=
  plan.columns.flatMap Column.flaggedIndexes ++ plan.indexes

/-- The names of the indexes and foreign keys of a plan. -/
def indexAndForeignKeyNames (plan : Plan) : List String :=
  plan.allIndexes.map plan.indexName ++ plan.foreignKeys.map plan.foreignKeyName

/-- No index, unique index, primary key or foreign key has a name of its own. -/
structure Unnamed (plan : Plan) : Prop where
  indexes : ∀ index ∈ plan.indexes, index.name = none
  columns : ∀ column ∈ plan.columns,
    column.uniqueName = none ∧ column.indexName = none ∧ column.primaryName = none
  foreignKeys : ∀ key ∈ plan.foreignKeys, key.name = none

end Plan

namespace Sql

/-- Something that a statement gives a name to: an index that it creates, or a constraint that it
adds. -/
inductive NamedObject where
  | index (creation : IndexCreation)
  | constraint (added : Constraint)
  deriving DecidableEq, Repr

/-- The name of a constraint, if it has one. -/
def Constraint.name? : Constraint → Option String
  | .primaryKey name _ => name
  | .foreignKey name _ _ => some name

/-- What an action gives names to. -/
def Alteration.namings : Alteration → List (String × NamedObject)
  | .addConstraint added => added.name?.toList.map fun name => (name, .constraint added)
  | _ => []

/-- What a statement gives names to, when it creates an index or adds constraints. -/
def Statement.namings : Statement → List (String × NamedObject)
  | .createIndex index => [(index.name, .index index)]
  | .alterTable _ alterations => alterations.flatMap Alteration.namings
  | _ => []

end Sql

namespace Plan

open Compile
open Sql (Statement NamedObject)

section
variable {plan : Plan}

/-! ## Distinct names -/

theorem name_eq_none_of_mem_allIndexes (unnamed : plan.Unnamed) {index : Index}
    (listed : index ∈ plan.allIndexes) : index.name = none := by
  rcases List.mem_append.mp listed with flagged | declared
  · obtain ⟨column, member, flag⟩ := List.mem_flatMap.mp flagged
    obtain ⟨unique, plain, _⟩ := unnamed.columns column member
    rcases List.mem_append.mp flag with flag | flag
    · rw [(mem_only.mp flag).2]
      exact unique
    · rw [(mem_only.mp flag).2]
      exact plain
  · exact unnamed.indexes index declared

theorem indexName_of_mem (unnamed : plan.Unnamed) {index : Index}
    (listed : index ∈ plan.allIndexes) :
    plan.indexName index = Name.index plan.table index.kind index.columns := by
  rw [indexName, name_eq_none_of_mem_allIndexes unnamed listed]
  rfl

theorem foreignKeyName_of_mem (unnamed : plan.Unnamed) {key : ForeignKey}
    (listed : key ∈ plan.foreignKeys) :
    plan.foreignKeyName key = Name.foreignKey plan.table key.referencedTable := by
  rw [foreignKeyName, unnamed.foreignKeys key listed]
  rfl

/-- A plan that declares at most one primary key has no two indexes that are primary keys. -/
theorem pairwise_not_both_primary (single : plan.declaredPrimaryKeys.length ≤ 1) :
    plan.allIndexes.Pairwise fun first second =>
      ¬ (first.kind = .primary ∧ second.kind = .primary) := by
  have flagged : ∀ index ∈ plan.columns.flatMap Column.flaggedIndexes, index.kind ≠ .primary := by
    intro index listed
    obtain ⟨column, _, flag⟩ := List.mem_flatMap.mp listed
    exact Column.kind_ne_primary_of_mem flag
  have declared : plan.indexes.Pairwise fun first second =>
      ¬ (first.kind = .primary ∧ second.kind = .primary) := by
    -- Of at most one declared key there is no pair at all.
    have none : plan.declaredPrimaryKeys.Pairwise fun _ _ => False := by
      cases keys : plan.declaredPrimaryKeys with
      | nil => exact List.Pairwise.nil
      | cons key others =>
        have alone : others = [] := by simpa [keys] using single
        rw [alone]
        exact List.pairwise_singleton _ _
    rw [declaredPrimaryKeys, List.pairwise_filter] at none
    refine none.imp ?_
    rintro first second apart ⟨firstPrimary, secondPrimary⟩
    exact apart (by simpa using firstPrimary) (by simpa using secondPrimary)
  rw [allIndexes, List.pairwise_append]
  refine ⟨List.Pairwise.imp_of_mem ?_ (List.pairwise_of_forall fun _ _ => trivial), declared, ?_⟩
  · intro first second member _ _ both
    exact flagged first member both.1
  · intro first member second _ both
    exact flagged first member both.1

/-- The names of the indexes are distinct exactly when the indexes of each kind have differently
joined columns. -/
theorem nodup_indexNames_iff (unnamed : plan.Unnamed)
    (single : plan.declaredPrimaryKeys.length ≤ 1) :
    (plan.allIndexes.map plan.indexName).Nodup ↔
      (plan.allIndexes.map fun index => (index.kind, "_".intercalate index.columns)).Nodup := by
  have alike : plan.allIndexes.Pairwise fun first second =>
      plan.indexName first = plan.indexName second ↔
        first.kind = second.kind ∧
          "_".intercalate first.columns = "_".intercalate second.columns := by
    refine List.Pairwise.imp_of_mem ?_ (pairwise_not_both_primary single)
    intro first second member member' separate
    rw [indexName_of_mem unnamed member, indexName_of_mem unnamed member']
    exact Name.index_eq_index_iff separate
  simp only [List.Nodup, List.pairwise_map, ne_eq, Prod.mk.injEq]
  constructor
  · intro distinct
    refine (distinct.and alike).imp ?_
    rintro first second ⟨different, same_iff⟩ same
    exact different (same_iff.mpr same)
  · intro distinct
    refine (distinct.and alike).imp ?_
    rintro first second ⟨different, same_iff⟩ same
    exact different (same_iff.mp same)

/-- The names of the foreign keys are distinct exactly when the referenced tables are, apart from
their schemas. -/
theorem nodup_foreignKeyNames_iff (unnamed : plan.Unnamed) :
    (plan.foreignKeys.map plan.foreignKeyName).Nodup ↔
      (plan.foreignKeys.map fun key => Name.unqualified key.referencedTable).Nodup := by
  simp only [List.Nodup, List.pairwise_map, ne_eq]
  refine List.Pairwise.iff_of_mem ?_
  intro first second member member'
  rw [foreignKeyName_of_mem unnamed member, foreignKeyName_of_mem unnamed member',
    Name.foreignKey_eq_foreignKey_iff]

theorem name_ne_of_foreignKey (unnamed : plan.Unnamed) {index : Index}
    (listed : index ∈ plan.allIndexes) {key : ForeignKey} (member : key ∈ plan.foreignKeys) :
    plan.indexName index ≠ plan.foreignKeyName key := by
  rw [indexName_of_mem unnamed listed, foreignKeyName_of_mem unnamed member]
  exact Name.index_ne_foreignKey _ _ _ _

theorem nodup_names_iff (unnamed : plan.Unnamed) (single : plan.declaredPrimaryKeys.length ≤ 1) :
    plan.indexAndForeignKeyNames.Nodup ↔
      (plan.allIndexes.map fun index => (index.kind, "_".intercalate index.columns)).Nodup ∧
        (plan.foreignKeys.map fun key => Name.unqualified key.referencedTable).Nodup := by
  have apart : ∀ name ∈ plan.allIndexes.map plan.indexName,
      ∀ other ∈ plan.foreignKeys.map plan.foreignKeyName, name ≠ other := by
    intro name listed other listed'
    obtain ⟨index, member, rfl⟩ := List.mem_map.mp listed
    obtain ⟨key, member', rfl⟩ := List.mem_map.mp listed'
    exact name_ne_of_foreignKey unnamed member member'
  rw [indexAndForeignKeyNames, List.nodup_append, nodup_indexNames_iff unnamed single,
    nodup_foreignKeyNames_iff unnamed]
  exact ⟨fun distinct => ⟨distinct.1, distinct.2.1⟩, fun distinct => ⟨distinct.1, distinct.2, apart⟩⟩

end

/-! ## Names in the statements -/

section
variable {dialect : Dialect} {plan : Plan}

variable (dialect plan) in
/-- What the statements of a plan give names to: its indexes, its foreign keys, and the primary key
that its new columns bring. -/
inductive GivesName : String × NamedObject → Prop where
  | index {index : Index} {statement : Statement} {naming : String × NamedObject}
      (listed : index ∈ plan.allIndexes) (given : indexOutput dialect plan index = some statement)
      (named : naming ∈ statement.namings) : GivesName naming
  | foreignKey {key : ForeignKey} (listed : key ∈ plan.foreignKeys) :
      GivesName (plan.foreignKeyName key, .constraint (foreignKeyConstraint plan key))
  | primaryKey {key : PrimaryKey} (flagged : addedPrimaryKey? plan = some key) :
      GivesName (key.name, .constraint (primaryKeyConstraint dialect key))

theorem mem_allIndexes_of_mem_separateIndexes {index : Index}
    (listed : index ∈ separateIndexes dialect plan) : index ∈ plan.allIndexes := by
  rcases List.mem_append.mp listed with flagged | declared
  · obtain ⟨column, member, flag⟩ := List.mem_flatMap.mp flagged
    have ofPlan : column ∈ plan.columns := by
      unfold flaggedColumns at member
      split at member
      · exact member
      · exact List.mem_of_mem_filter member
    refine List.mem_append_left _ (List.mem_flatMap.mpr ⟨column, ofPlan, ?_⟩)
    rcases List.mem_append.mp flag with flag | flag
    · obtain ⟨separate, rfl⟩ := mem_only.mp flag
      have asked : column.unique = true := (Bool.and_eq_true_iff.mp separate).1
      exact List.mem_append_left _ (mem_only.mpr ⟨asked, rfl⟩)
    · obtain ⟨separate, rfl⟩ := mem_only.mp flag
      have asked : column.index = true := (Bool.and_eq_true_iff.mp separate).1
      exact List.mem_append_right _ (mem_only.mpr ⟨asked, rfl⟩)
  · exact List.mem_append_right _ declared

theorem givesName_definitionsOutput {naming : String × NamedObject}
    (named : naming ∈ (definitionsOutput dialect plan).flatMap Statement.namings) :
    GivesName dialect plan naming := by
  obtain ⟨statement, listed, named⟩ := List.mem_flatMap.mp named
  rcases List.mem_append.mp listed with listed | listed
  · obtain ⟨index, member, given⟩ := List.mem_filterMap.mp listed
    exact .index (mem_allIndexes_of_mem_separateIndexes member) given named
  · obtain ⟨key, member, given⟩ := List.mem_filterMap.mp listed
    unfold foreignKeyOutput at given
    split at given
    · cases given
    · cases given
      rw [List.mem_singleton.mp named]
      exact .foreignKey member

theorem namings_columnComments (columns : List Column) :
    (columnComments dialect plan columns).flatMap Statement.namings = [] := by
  refine List.flatMap_eq_nil_iff.mpr fun statement listed => ?_
  obtain ⟨column, text, rfl⟩ := exists_of_mem_columnComments listed
  rfl

/-- New columns bring at most the primary key that is made of them. -/
theorem givesName_addColumnsOutput {naming : String × NamedObject}
    (named : naming ∈ (addColumnsOutput dialect plan).flatMap Statement.namings) :
    GivesName dialect plan naming := by
  have additions : (columnAdditions dialect plan).flatMap Sql.Alteration.namings = [] := by
    refine List.flatMap_eq_nil_iff.mpr fun addition listed => ?_
    obtain ⟨column, _, rfl⟩ := List.mem_map.mp listed
    rfl
  unfold addColumnsOutput at named
  split at named
  · have none : ((columnAdditions dialect plan).map fun addition =>
        Statement.alterTable (tablePath plan) [addition]).flatMap Statement.namings = [] := by
      refine List.flatMap_eq_nil_iff.mpr fun statement listed => ?_
      obtain ⟨addition, member, rfl⟩ := List.mem_map.mp listed
      obtain ⟨column, _, rfl⟩ := List.mem_map.mp member
      rfl
    rw [none] at named
    cases named
  · split at named
    · cases named
    · rw [List.flatMap_cons, namings_columnComments, List.append_nil, Statement.namings,
        List.flatMap_append, additions, List.nil_append] at named
      obtain ⟨addition, listed, named⟩ := List.mem_flatMap.mp named
      obtain ⟨key, flagged, rfl⟩ := List.mem_map.mp listed
      obtain ⟨name, given, rfl⟩ := List.mem_map.mp named
      have same : name = key.name := by
        cases dialect with
        | mysql => cases given
        | postgres | sqlite => exact List.mem_singleton.mp given
      rw [same]
      exact .primaryKey (Option.mem_toList.mp flagged)

theorem namings_of_declaresNothing {statement : Statement} (nothing : statement.DeclaresNothing) :
    statement.namings = [] := by
  cases statement with
  | createTable | createIndex | commentOnTable | commentOnColumn => exact nothing.elim
  | alterTable table alterations =>
    refine List.flatMap_eq_nil_iff.mpr fun alteration listed => ?_
    have nothing : alteration.DeclaresNothing := nothing alteration listed
    cases alteration with
    | addConstraint => exact nothing.elim
    | _ => rfl
  | _ => rfl

theorem namings_changeColumnsOutput :
    (changeColumnsOutput dialect plan).flatMap Statement.namings = [] := by
  cases dialect with
  | postgres =>
    have changed : (plan.changedColumns.map (changeColumn plan)).flatMap Statement.namings = [] := by
      refine List.flatMap_eq_nil_iff.mpr fun statement listed => ?_
      obtain ⟨column, _, rfl⟩ := List.mem_map.mp listed
      refine List.flatMap_eq_nil_iff.mpr fun alteration member => ?_
      simp only [List.mem_append, mem_only, List.mem_cons, List.not_mem_nil, or_false] at member
      rcases member with (rfl | rfl) | ⟨_, rfl⟩
      · rfl
      · split <;> rfl
      · split <;> rfl
    have output : changeColumnsOutput .postgres plan =
        plan.changedColumns.map (changeColumn plan) ++
          columnComments .postgres plan plan.changedColumns := rfl
    rw [output, List.flatMap_append, changed, namings_columnComments]
    rfl
  | mysql =>
    refine List.flatMap_eq_nil_iff.mpr fun statement listed => ?_
    rw [changeColumnsOutput_mysql] at listed
    split at listed
    · cases listed
    · rw [List.mem_singleton.mp listed]
      refine List.flatMap_eq_nil_iff.mpr fun alteration member => ?_
      obtain ⟨column, _, rfl⟩ := List.mem_map.mp member
      rfl
  | sqlite => rfl

theorem namings_tableCommentOutput :
    (tableCommentOutput dialect plan).flatMap Statement.namings = [] := by
  unfold tableCommentOutput
  cases dialect with
  | sqlite => rfl
  | postgres => cases plan.comment <;> rfl
  | mysql => cases plan.creating <;> cases plan.comment <;> rfl

/-- Whatever a command gives a name to is a part of the plan. -/
theorem givesName_commandOutput {asked : Command} {naming : String × NamedObject}
    (named : naming ∈ (commandOutput dialect plan asked).flatMap Statement.namings) :
    GivesName dialect plan naming := by
  cases declares : asked.declares with
  | false =>
    obtain ⟨statement, listed, named⟩ := List.mem_flatMap.mp named
    rw [namings_of_declaresNothing (declaresNothing_commandOutput declares statement listed)] at named
    cases named
  | true =>
    cases asked with
    | create | createIfNotExists =>
      rw [commandOutput, List.flatMap_append, createTableOutput, List.flatMap_cons,
        namings_columnComments] at named
      exact givesName_definitionsOutput named
    | add =>
      rw [commandOutput, List.flatMap_append] at named
      rcases List.mem_append.mp named with named | named
      · exact givesName_addColumnsOutput named
      · exact givesName_definitionsOutput named
    | change =>
      rw [commandOutput, namings_changeColumnsOutput] at named
      cases named
    | comment =>
      rw [commandOutput, namings_tableCommentOutput] at named
      cases named
    | _ => cases declares

/-- The statement of an index gives one name to one thing. -/
theorem namings_indexOutput {index : Index} {statement : Statement}
    {naming : String × NamedObject} (given : indexOutput dialect plan index = some statement)
    (named : naming ∈ statement.namings) :
    naming.1 = plan.indexName index ∧ statement.namings = [naming] := by
  have single {name : String} {object : NamedObject}
      (alone : statement.namings = [(name, object)]) (same : name = plan.indexName index) :
      naming.1 = plan.indexName index ∧ statement.namings = [naming] := by
    rw [alone] at named ⊢
    rw [List.mem_singleton.mp named]
    exact ⟨same, rfl⟩
  unfold indexOutput at given
  split at given
  · split at given
    · cases given
    · cases given
      cases dialect with
      | mysql => cases named
      | postgres | sqlite => exact single rfl rfl
  · split at given
    · cases given
    · unfold indexCreation? at given
      split at given
      · cases given
        exact single rfl rfl
      · unfold fullTextIndex? at given
        cases dialect <;> cases given <;> exact single rfl rfl
      · cases given
        exact single rfl rfl

/-! ## No two things alike -/

theorem declaresPrimary_of_mem {index : Index} (listed : index ∈ plan.allIndexes)
    (primary : index.kind = .primary) : plan.declaresPrimary = true := by
  rcases List.mem_append.mp listed with flagged | declared
  · obtain ⟨column, _, flag⟩ := List.mem_flatMap.mp flagged
    exact absurd primary (Column.kind_ne_primary_of_mem flag)
  · exact List.any_eq_true.mpr ⟨index, declared, by simpa using primary⟩

/-- The flagged columns make a primary key only if none is declared, and it has the conventional
name. -/
theorem addedPrimaryKey?_of_unnamed (unnamed : plan.Unnamed) {key : PrimaryKey}
    (flagged : addedPrimaryKey? plan = some key) :
    plan.declaresPrimary = false ∧ key.name = Name.index plan.table .primary [] := by
  unfold addedPrimaryKey? at flagged
  split at flagged
  · cases flagged
  · next undeclared =>
    refine ⟨by simpa using undeclared, ?_⟩
    unfold flaggedPrimaryKey? at flagged
    split at flagged
    · cases flagged
    · cases flagged
      have none : (plan.addedColumns.filter Column.primary).findSome? Column.primaryName = none := by
        refine List.findSome?_eq_none_iff.mpr fun column listed => ?_
        have ofPlan : column ∈ plan.columns :=
          List.mem_of_mem_filter (List.mem_of_mem_filter listed)
        exact (unnamed.columns column ofPlan).2.2
      rw [none]
      rfl

section
variable (unnamed : plan.Unnamed)
include unnamed

theorem name_ne_of_primaryKey {index : Index} (listed : index ∈ plan.allIndexes) {key : PrimaryKey}
    (flagged : addedPrimaryKey? plan = some key) : plan.indexName index ≠ key.name := by
  obtain ⟨undeclared, conventional⟩ := addedPrimaryKey?_of_unnamed unnamed flagged
  rw [indexName_of_mem unnamed listed, conventional]
  intro same
  -- The index would have to be a declared primary key, but then the columns bring none.
  rw [declaresPrimary_of_mem listed (Name.kind_eq_of_index_eq same)] at undeclared
  cases undeclared

theorem foreignKeyName_ne_of_primaryKey {key : ForeignKey} (member : key ∈ plan.foreignKeys)
    {primary : PrimaryKey} (flagged : addedPrimaryKey? plan = some primary) :
    plan.foreignKeyName key ≠ primary.name := by
  rw [foreignKeyName_of_mem unnamed member, (addedPrimaryKey?_of_unnamed unnamed flagged).2]
  exact (Name.index_ne_foreignKey _ _ _ _).symm

/-- If the names of the indexes and foreign keys are distinct, one name stands for one thing. -/
theorem eq_of_givesName (distinct : plan.indexAndForeignKeyNames.Nodup)
    {first second : String × NamedObject} (one : GivesName dialect plan first)
    (other : GivesName dialect plan second) (same : first.1 = second.1) : first = second := by
  obtain ⟨ofIndexes, ofForeignKeys, _⟩ := List.nodup_append.mp distinct
  -- Two sorts of things have names that begin differently; within a sort the names are distinct.
  cases one with
  | index listed given named =>
    obtain ⟨name, alone⟩ := namings_indexOutput given named
    cases other with
    | index listed' given' named' =>
      have equal := List.inj_on_of_nodup_map ofIndexes listed listed'
        (name.symm.trans (same.trans (namings_indexOutput given' named').1))
      subst equal
      rw [given, Option.some.injEq] at given'
      rw [← given', alone] at named'
      exact (List.mem_singleton.mp named').symm
    | foreignKey listed' =>
      exact absurd (name.symm.trans same) (name_ne_of_foreignKey unnamed listed listed')
    | primaryKey flagged =>
      exact absurd (name.symm.trans same) (name_ne_of_primaryKey unnamed listed flagged)
  | foreignKey listed =>
    cases other with
    | index listed' given' named' =>
      have name := (namings_indexOutput given' named').1
      exact absurd (name.symm.trans same.symm) (name_ne_of_foreignKey unnamed listed' listed)
    | foreignKey listed' => rw [List.inj_on_of_nodup_map ofForeignKeys listed listed' same]
    | primaryKey flagged =>
      exact absurd same (foreignKeyName_ne_of_primaryKey unnamed listed flagged)
  | primaryKey flagged =>
    cases other with
    | index listed' given' named' =>
      have name := (namings_indexOutput given' named').1
      exact absurd (name.symm.trans same.symm) (name_ne_of_primaryKey unnamed listed' flagged)
    | foreignKey listed' =>
      exact absurd same.symm (foreignKeyName_ne_of_primaryKey unnamed listed' flagged)
    | primaryKey flagged' =>
      rw [flagged, Option.some.injEq] at flagged'
      rw [flagged']

/-- In a plan that gives no names of its own and declares at most one primary key, the names of the
indexes and foreign keys are distinct exactly when no two indexes of one kind have columns that are
the same joined by underscores, and no two foreign keys refer to tables that are the same apart from
their schemas.  Then no two things that the statements create or add have the same name. -/
theorem generated_names_distinct (single : plan.declaredPrimaryKeys.length ≤ 1) :
    (plan.indexAndForeignKeyNames.Nodup ↔
      (plan.allIndexes.map fun index => (index.kind, "_".intercalate index.columns)).Nodup ∧
        (plan.foreignKeys.map fun key => Name.unqualified key.referencedTable).Nodup) ∧
    (plan.indexAndForeignKeyNames.Nodup →
      ∀ dialect statements, plan.statements dialect = .ok statements →
        ∀ first ∈ statements.flatMap Statement.namings,
          ∀ second ∈ statements.flatMap Statement.namings,
            first.1 = second.1 → first = second) := by
  refine ⟨nodup_names_iff unnamed single, ?_⟩
  intro distinct dialect statements compiled first one second other same
  have output := ((statements_splits dialect plan).eq_ok_iff.mp compiled).2
  subst output
  have ofPlan {naming : String × NamedObject}
      (named : naming ∈ (plan.output dialect).flatMap Statement.namings) :
      GivesName dialect plan naming := by
    rw [output, List.flatMap_assoc] at named
    obtain ⟨asked, _, given⟩ := List.mem_flatMap.mp named
    exact givesName_commandOutput given
  exact eq_of_givesName unnamed distinct (ofPlan one) (ofPlan other) same

end

/-- A flag and an index over one column, and two foreign keys of one column, have distinct names. -/
theorem generated_names_distinct_oneColumn :
    let plan := build "posts"
      [.column "author_id" .integer [.unique], .index .index ["author_id"] [],
       .foreignKey "author_id" [.references "id", .on "users"],
       .foreignKey "author_id" [.references "id", .on "authors"]]
    plan.Unnamed ∧ plan.declaredPrimaryKeys.length ≤ 1 ∧ plan.indexAndForeignKeyNames.Nodup ∧
      ∃ statements, plan.statements .postgres = .ok statements ∧ statements.length = 5 ∧
        ∀ first ∈ statements.flatMap Statement.namings,
          ∀ second ∈ statements.flatMap Statement.namings,
            first.1 = second.1 → first = second := by
  intro plan
  have unnamed : plan.Unnamed := ⟨by decide +kernel, by decide +kernel, by decide +kernel⟩
  have single : plan.declaredPrimaryKeys.length ≤ 1 := by decide +kernel
  obtain ⟨distinct_iff, apart⟩ := generated_names_distinct unnamed single
  have distinct : plan.indexAndForeignKeyNames.Nodup := distinct_iff.mpr (by decide +kernel)
  have compiled : plan.statements .postgres = .ok (plan.output .postgres) := by decide +kernel
  exact ⟨unnamed, single, distinct, _, compiled, by decide +kernel,
    apart distinct .postgres _ compiled⟩

/-- An underscore within a column name looks like one between two names, and foreign keys of two
columns may refer to one table: two indexes get one name, and so do two foreign keys. -/
theorem names_collide :
    let plan := build "posts"
      [.index .index ["a", "b"] [], .index .index ["a_b"] [],
       .foreignKey "author_id" [.references "id", .on "users"],
       .foreignKey "editor_id" [.references "id", .on "users"]]
    plan.Unnamed ∧ plan.declaredPrimaryKeys.length ≤ 1 ∧
    (plan.allIndexes.map fun index => (index.kind, index.columns)).Nodup ∧
    (plan.foreignKeys.map fun key =>
      (key.column, key.referencedTable, key.referencedColumn)).Nodup ∧
    plan.indexAndForeignKeyNames =
      ["idx_posts_a_b", "idx_posts_a_b", "fk_posts_users", "fk_posts_users"] ∧
    plan.toSql .postgres = .ok
      ["CREATE INDEX \"idx_posts_a_b\" ON \"posts\" (\"a\", \"b\")",
       "CREATE INDEX \"idx_posts_a_b\" ON \"posts\" (\"a_b\")",
       "ALTER TABLE \"posts\" ADD CONSTRAINT \"fk_posts_users\" " ++
         "FOREIGN KEY (\"author_id\") REFERENCES \"users\" (\"id\")",
       "ALTER TABLE \"posts\" ADD CONSTRAINT \"fk_posts_users\" " ++
         "FOREIGN KEY (\"editor_id\") REFERENCES \"users\" (\"id\")"] := by
  refine ⟨⟨?_, ?_, ?_⟩, ?_, ?_, ?_, ?_, ?_⟩ <;> decide +kernel

end

end Plan

end TablePlan

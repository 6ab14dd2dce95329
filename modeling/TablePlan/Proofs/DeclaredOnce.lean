import Mathlib.Data.List.Perm.Basic
import TablePlan.Proofs.Declarations

/-!
# Nothing is lost and nothing is declared twice

A foreign key, an index or a comment goes one of several ways, depending on the dialect, on whether
the table is created, and on whether its creation may be repeated.  Main statement: whichever way it
is, in postgres and mysql each of them is declared exactly once, and those that are statements of
their own come in a fixed order (`declared_once`).
-/

namespace TablePlan

namespace Compile

open Sql
open Sql.Declared (gather)

/-! ## Indexes and foreign keys behind a creation or an addition -/

/-- The indexes of their own that are no primary keys, in order: those of flags, column by column
and unique before plain, then the declared ones. -/
def secondaryIndexes (dialect : Dialect) (plan : Plan) : List Index :=
  (separateIndexes dialect plan).filter fun index => index.kind != .primary

/-- The statements of their own that a plan's indexes and foreign keys are due, in order. -/
def separateStatements (dialect : Dialect) (plan : Plan) : List Statement :=
  (if declaresKeysInline dialect plan then []
    else (secondaryIndexes dialect plan).filterMap (indexCreation? dialect plan)) ++
  (if plan.ifNotExists then [] else plan.foreignKeys.map (foreignKeyAddition plan))

section
variable {dialect : Dialect} (notSqlite : dialect ≠ .sqlite) (plan : Plan)
include notSqlite

/-- The statement that creates an index declares that index. -/
theorem declared_indexCreation {index : Index} (secondary : index.kind ≠ .primary) :
    ∃ statement, indexCreation? dialect plan index = some statement ∧
      statement.declared = { indexes := [indexDeclaration plan index] } ∧
      statement.isSeparate = true := by
  rcases index with ⟨kind, columns, name, method⟩
  cases kind with
  | primary => exact absurd rfl secondary
  | index | unique | fullText =>
    cases dialect with
    | sqlite => exact absurd rfl notSqlite
    | postgres | mysql => exact ⟨_, rfl, rfl, rfl⟩

/-- Behind a creation or an addition there is a statement for each index that is neither a primary
key nor inline. -/
theorem declared_indexesOutput (indexes : List Index) :
    gather Statement.declared (indexes.filterMap (indexOutput dialect plan)) =
      { indexes := if declaresKeysInline dialect plan then []
          else (indexes.filter fun index => index.kind != .primary).map (indexDeclaration plan) } ∧
    (indexes.filterMap (indexOutput dialect plan)).filter Statement.isSeparate =
      if declaresKeysInline dialect plan then []
      else (indexes.filter fun index => index.kind != .primary).filterMap
        (indexCreation? dialect plan) := by
  induction indexes with
  | nil => simp
  | cons index rest ih =>
    obtain ⟨declared, separate⟩ := ih
    by_cases primary : index.kind = .primary
    · have output : gather Statement.declared (indexOutput dialect plan index).toList = {} ∧
          (indexOutput dialect plan index).toList.filter Statement.isSeparate = [] := by
        unfold indexOutput
        rw [if_pos primary]
        split <;> exact ⟨rfl, rfl⟩
      have split : (index :: rest).filterMap (indexOutput dialect plan) =
          (indexOutput dialect plan index).toList ++ rest.filterMap (indexOutput dialect plan) := by
        simp [List.filterMap_eq_flatMap_toList]
      have dropped : (index :: rest).filter (fun index => index.kind != .primary) =
          rest.filter fun index => index.kind != .primary := by
        simp [primary]
      rw [split, dropped, Declared.gather_append, output.1, Declared.empty_append,
        List.filter_append, output.2, List.nil_append]
      exact ⟨declared, separate⟩
    · obtain ⟨statement, creation, declares, own⟩ := declared_indexCreation notSqlite plan primary
      have kept : (index :: rest).filter (fun index => index.kind != .primary) =
          index :: rest.filter fun index => index.kind != .primary := by
        simp [primary]
      rw [kept]
      cases inline : declaresKeysInline dialect plan with
      | true =>
        have none : indexOutput dialect plan index = none := by simp [indexOutput, primary, inline]
        rw [inline] at declared separate
        rw [List.filterMap_cons_none none]
        exact ⟨declared, separate⟩
      | false =>
        have output : indexOutput dialect plan index = some statement := by
          simp [indexOutput, primary, inline, creation]
        rw [inline] at declared separate
        rw [List.filterMap_cons_some output, Declared.gather_cons, declares, declared,
          List.filter_cons_of_pos own, separate]
        simp only [Bool.false_eq_true, ↓reduceIte, List.map_cons,
          List.filterMap_cons_some creation, and_true]
        rfl

theorem declared_foreignKeysOutput :
    gather Statement.declared (plan.foreignKeys.filterMap (foreignKeyOutput dialect plan)) =
      { foreignKeys := if plan.ifNotExists then []
          else plan.foreignKeys.map (foreignKeyDeclaration plan) } ∧
    (plan.foreignKeys.filterMap (foreignKeyOutput dialect plan)).filter Statement.isSeparate =
      if plan.ifNotExists then [] else plan.foreignKeys.map (foreignKeyAddition plan) := by
  have inline (key : ForeignKey) : declaresForeignKeyInline dialect plan key = plan.ifNotExists := by
    cases dialect with
    | sqlite => exact absurd rfl notSqlite
    | postgres | mysql => rfl
  cases repeatable : plan.ifNotExists with
  | true =>
    have none (key : ForeignKey) : foreignKeyOutput dialect plan key = none := by
      simp [foreignKeyOutput, inline, repeatable]
    simp [none]
  | false =>
    have own (key : ForeignKey) :
        foreignKeyOutput dialect plan key = some (foreignKeyAddition plan key) := by
      simp [foreignKeyOutput, inline, repeatable, notSqlite]
    have declares (key : ForeignKey) : (foreignKeyAddition plan key).declared =
        { foreignKeys := [foreignKeyDeclaration plan key] } := rfl
    have separate (key : ForeignKey) : (foreignKeyAddition plan key).isSeparate = true := rfl
    have all : plan.foreignKeys.filterMap (foreignKeyOutput dialect plan) =
        plan.foreignKeys.map (foreignKeyAddition plan) := by
      simp [own]
    rw [all]
    constructor
    · ext1 <;>
        simp [Declared.foreignKeys_gather, Declared.indexes_gather, Declared.columnComments_gather,
          Declared.tableComments_gather, declares, ← List.map_eq_flatMap]
    · simp [List.filter_map, Function.comp_def, separate]

/-- Behind a creation or an addition each index and foreign key that is not inline is declared by a
statement of its own. -/
theorem declared_definitionsOutput :
    gather Statement.declared (definitionsOutput dialect plan) =
      { foreignKeys := if plan.ifNotExists then []
          else plan.foreignKeys.map (foreignKeyDeclaration plan)
        indexes := if declaresKeysInline dialect plan then []
          else (secondaryIndexes dialect plan).map (indexDeclaration plan) } ∧
    (definitionsOutput dialect plan).filter Statement.isSeparate = separateStatements dialect plan := by
  obtain ⟨indexes, separateIndex⟩ :=
    declared_indexesOutput notSqlite plan (separateIndexes dialect plan)
  obtain ⟨keys, separateKey⟩ := declared_foreignKeysOutput notSqlite plan
  unfold definitionsOutput
  rw [Declared.gather_append, indexes, keys, List.filter_append, separateIndex, separateKey]
  refine ⟨?_, rfl⟩
  ext1
  · rfl
  · exact List.append_nil _
  · rfl
  · rfl

/-! ## All that a plan declares -/

omit notSqlite in
theorem filter_columnComments (columns : List Column) :
    (columnComments dialect plan columns).filter Statement.isSeparate = [] := by
  rw [List.filter_eq_nil_iff]
  intro statement listed
  obtain ⟨column, text, rfl⟩ := exists_of_mem_columnComments listed
  exact Bool.false_ne_true

omit notSqlite in
/-- A change of the table is no statement of its own for a foreign key where none is declared. -/
theorem filter_alterTable_cons {table : Path} {alterations : List Alteration}
    {rest : List Statement}
    (silent : (gather Statement.declared (.alterTable table alterations :: rest)).foreignKeys = []) :
    (Statement.alterTable table alterations :: rest).filter Statement.isSeparate =
      rest.filter Statement.isSeparate := by
  rw [Declared.gather_cons, Declared.foreignKeys_append] at silent
  have joint := (Statement.isSeparate_alterTable table).mpr (List.append_eq_nil_iff.mp silent).1
  exact List.filter_cons_of_neg (by rw [joint]; exact Bool.false_ne_true)

theorem filter_addColumnsOutput :
    (addColumnsOutput dialect plan).filter Statement.isSeparate = [] := by
  have declared := congrArg Declared.foreignKeys (declared_addColumnsOutput notSqlite plan)
  unfold addColumnsOutput at declared ⊢
  rw [if_neg notSqlite] at declared ⊢
  by_cases none : plan.addedColumns.isEmpty = true
  · rw [if_pos none]
    rfl
  · rw [if_neg none] at declared ⊢
    rw [filter_alterTable_cons declared, filter_columnComments]

theorem filter_changeColumnsOutput :
    (changeColumnsOutput dialect plan).filter Statement.isSeparate = [] := by
  have declared := congrArg Declared.foreignKeys (declared_changeColumnsOutput notSqlite plan)
  cases dialect with
  | sqlite => exact absurd rfl notSqlite
  | mysql =>
    rw [changeColumnsOutput_mysql] at declared ⊢
    by_cases none : plan.changedColumns.isEmpty = true
    · rw [if_pos none]
      rfl
    · rw [if_neg none] at declared ⊢
      rw [filter_alterTable_cons declared, List.filter_nil]
  | postgres =>
    have each (column : Column) : (changeColumn plan column).isSeparate = false := by
      unfold changeColumn
      cases column.nullable <;> cases column.autoIncrement <;> cases column.defaultValue <;> rfl
    unfold changeColumnsOutput
    simp only
    rw [List.filter_append, filter_columnComments, List.filter_map]
    simp [Function.comp_def, each]

/-- All foreign keys, and as inline indexes or indexes of their own all flags and all declared
indexes but primary keys; the comments of all columns; and in mysql the comment of a new table. -/
theorem declared_declaringOutput :
    gather Statement.declared (plan.declaringOutput dialect) =
      { foreignKeys := plan.foreignKeys.map (foreignKeyDeclaration plan)
        indexes := (flaggedColumns plan).flatMap (inlineUniques dialect) ++
          (secondaryIndexes dialect plan).map (indexDeclaration plan)
        columnComments := if plan.creating then plan.columns.flatMap commentOf
          else plan.changedColumns.flatMap commentOf ++ plan.addedColumns.flatMap commentOf
        tableComments := if plan.creating = true ∧ dialect = .mysql then plan.comment.toList
          else [] } ∧
    (plan.declaringOutput dialect).filter Statement.isSeparate = separateStatements dialect plan := by
  obtain ⟨behind, separate⟩ := declared_definitionsOutput notSqlite plan
  unfold Plan.declaringOutput
  rw [Declared.gather_append, behind, List.filter_append, separate]
  cases creating : plan.creating with
  | false =>
    have fresh := Plan.ifNotExists_eq_false_of_existing creating
    simp only [Bool.false_eq_true, ↓reduceIte, Declared.gather_append, List.filter_append,
      declared_changeColumnsOutput notSqlite, declared_addColumnsOutput notSqlite,
      filter_changeColumnsOutput notSqlite, filter_addColumnsOutput notSqlite, List.nil_append,
      and_true]
    ext1 <;> simp [fresh, declaresKeysInline, flaggedColumns, creating]
  | true =>
    have own : (createTableOutput dialect plan plan.ifNotExists).filter Statement.isSeparate = [] := by
      unfold createTableOutput
      rw [List.filter_cons_of_neg Bool.false_ne_true, filter_columnComments]
    have indexes : (if declaresKeysInline dialect plan then
          (inlineIndexes plan).map (indexDeclaration plan) else []) ++
        (if declaresKeysInline dialect plan then []
          else (secondaryIndexes dialect plan).map (indexDeclaration plan)) =
        (secondaryIndexes dialect plan).map (indexDeclaration plan) := by
      cases inline : declaresKeysInline dialect plan with
      | false => rfl
      | true =>
        have mysql : dialect = .mysql := by
          simp only [declaresKeysInline, Bool.and_eq_true, decide_eq_true_eq] at inline
          exact inline.1
        subst mysql
        rw [if_pos rfl, if_pos rfl, List.append_nil, inlineIndexes_eq_filter plan creating]
        rfl
    rw [if_pos rfl, declared_createTableOutput notSqlite, own, List.nil_append]
    refine ⟨?_, rfl⟩
    rw [flaggedColumns_of_creating plan creating]
    ext1
    · cases repeatable : plan.ifNotExists <;> simp
    · rw [Declared.indexes_append, List.append_assoc, indexes]
    · simp
    · simp

/-- The command for the comment does nothing but attach it, where the creation does not. -/
theorem declared_tableCommentOutput :
    gather Statement.declared (tableCommentOutput dialect plan) =
      { tableComments := if plan.creating = true ∧ dialect = .mysql then []
          else plan.comment.toList } ∧
    (tableCommentOutput dialect plan).filter Statement.isSeparate = [] := by
  unfold tableCommentOutput
  cases dialect with
  | sqlite => exact absurd rfl notSqlite
  | postgres => cases plan.comment <;> exact ⟨by simp <;> rfl, rfl⟩
  | mysql => cases plan.creating <;> cases plan.comment <;> exact ⟨by simp <;> rfl, rfl⟩

end

/-! ## What is due -/

/-- The declarations that the flags of a column are due, unique before plain; in mysql a unique
index without a name is left without one. -/
def flagDeclarations (dialect : Dialect) (plan : Plan) (column : Column) : List IndexDeclaration :=
  only column.unique
    (if dialect = .mysql && column.uniqueName.isNone then
      { kind := .unique, name := none, columns := [column.name] }
    else indexDeclaration plan (flaggedIndex dialect column .unique)) ++
  only column.index (indexDeclaration plan (flaggedIndex dialect column .index))

/-- The index declarations that a plan is due: for the flags of the columns that it creates or adds,
and for the declared indexes other than primary keys. -/
def dueIndexes (dialect : Dialect) (plan : Plan) : List IndexDeclaration :=
  (flaggedColumns plan).flatMap (flagDeclarations dialect plan) ++
    (plan.indexes.filter fun index => index.kind != .primary).map (indexDeclaration plan)

/-- A flag is met either in the definition of its column or by an index of its own. -/
theorem flagDeclarations_eq {dialect : Dialect} (plan : Plan) {column : Column}
    (new : dialect = .mysql → column.change = false) :
    inlineUniques dialect column ++
        ((flaggedIndexes dialect column).filter fun index => index.kind != .primary).map
          (indexDeclaration plan) =
      flagDeclarations dialect plan column := by
  cases dialect with
  | mysql =>
    have new := new rfl
    cases unique : column.unique <;> cases name : column.uniqueName <;> cases plain : column.index <;>
      simp [inlineUniques, flaggedIndexes, isSeparateFlag, asksFor, flaggedIndex, flagDeclarations,
        only, unique, name, plain, new]
  | postgres | sqlite =>
    cases unique : column.unique <;> cases plain : column.index <;>
      simp [inlineUniques, flaggedIndexes, isSeparateFlag, asksFor, flaggedIndex, flagDeclarations,
        only, unique, plain]

theorem perm_dueIndexes {dialect : Dialect} (plan : Plan)
    (new : dialect = .mysql → ∀ column ∈ flaggedColumns plan, column.change = false) :
    ((flaggedColumns plan).flatMap (inlineUniques dialect) ++
      (secondaryIndexes dialect plan).map (indexDeclaration plan)).Perm (dueIndexes dialect plan) := by
  have flags : (flaggedColumns plan).flatMap (flagDeclarations dialect plan) =
      (flaggedColumns plan).flatMap fun column => inlineUniques dialect column ++
        ((flaggedIndexes dialect column).filter fun index => index.kind != .primary).map
          (indexDeclaration plan) := by
    apply List.flatMap_congr
    intro column member
    exact (flagDeclarations_eq plan fun mysql => new mysql column member).symm
  have split := List.flatMap_append_perm (flaggedColumns plan) (inlineUniques dialect) fun column =>
    ((flaggedIndexes dialect column).filter fun index => index.kind != .primary).map
      (indexDeclaration plan)
  unfold dueIndexes secondaryIndexes separateIndexes
  rw [flags, List.filter_append, List.map_append, List.filter_flatMap, List.map_flatMap,
    ← List.append_assoc]
  exact split.append_right _

/-- The changed and the new columns are all columns. -/
theorem perm_comments (plan : Plan) :
    (if plan.creating then plan.columns.flatMap commentOf
      else plan.changedColumns.flatMap commentOf ++ plan.addedColumns.flatMap commentOf).Perm
      (plan.columns.flatMap commentOf) := by
  split
  · exact .refl _
  · rw [← List.flatMap_append]
    exact (List.filter_append_perm (fun column : Column => column.change) plan.columns).flatMap_right
      commentOf

/-- Outside repeatable creations each foreign key has a statement of its own. -/
theorem length_foreignKeys_separateStatements (dialect : Dialect) {plan : Plan}
    (fresh : plan.ifNotExists = false) :
    plan.foreignKeys.length ≤
      (gather Statement.declared (separateStatements dialect plan)).foreignKeys.length := by
  have additions : (gather Statement.declared
      (plan.foreignKeys.map (foreignKeyAddition plan))).foreignKeys =
      plan.foreignKeys.map (foreignKeyDeclaration plan) := by
    rw [Declared.gather_map, Declared.foreignKeys_gather, List.map_eq_flatMap]
    rfl
  unfold separateStatements
  rw [fresh, if_neg Bool.false_ne_true, Declared.gather_append, Declared.foreignKeys_append, additions,
    List.length_append, List.length_map]
  omega

section
variable {dialect : Dialect} (notSqlite : dialect ≠ .sqlite) {plan : Plan}
include notSqlite

/-- A statement of its own declares a foreign key only if it is the addition of one. -/
theorem foreignKeys_of_mem_separateStatements {statement : Statement}
    (member : statement ∈ separateStatements dialect plan) :
    statement.declared.foreignKeys = [] ∨
      plan.ifNotExists = false ∧ ∃ key ∈ plan.foreignKeys, statement = foreignKeyAddition plan key := by
  rcases List.mem_append.mp member with index | key
  · split at index
    · cases index
    · obtain ⟨index, listed, given⟩ := List.mem_filterMap.mp index
      have secondary : index.kind ≠ .primary := by simpa using (List.mem_filter.mp listed).2
      obtain ⟨creation, same, nothing, _⟩ := declared_indexCreation notSqlite plan secondary
      rw [given, Option.some.injEq] at same
      subst same
      exact .inl (congrArg Declared.foreignKeys nothing)
  · split at key
    · cases key
    · next fresh =>
      obtain ⟨declared, listed, rfl⟩ := List.mem_map.mp key
      exact .inr ⟨by simpa using fresh, declared, listed, rfl⟩

end

end Compile

namespace Plan

open Compile
open Sql (Statement Declared)
open Sql.Declared (gather)

section
variable {dialect : Dialect} {plan : Plan} (notSqlite : dialect ≠ .sqlite)
  (order : plan.AsksInOrder)
  (single : ¬ (.create ∈ plan.requested ∧ .createIfNotExists ∈ plan.requested))

/-! ## All statements of a plan -/

include order

include notSqlite in
/-- No command but its own attaches the comment, unless the table is created in mysql. -/
theorem tableComments_commandOutput {asked : Command} (listed : asked ∈ plan.commands)
    (other : asked ≠ .comment) (separate : ¬ (plan.creating = true ∧ dialect = .mysql)) :
    (gather Statement.declared (commandOutput dialect plan asked)).tableComments = [] := by
  have definitions := (declared_definitionsOutput notSqlite plan).1
  cases asked with
  | create | createIfNotExists =>
    have postgres : dialect ≠ .mysql := by
      intro mysql
      exact separate ⟨creating_of_mem_commands order listed rfl, mysql⟩
    simp [commandOutput, definitions, declared_createTableOutput notSqlite, postgres]
  | add => simp [commandOutput, definitions, declared_addColumnsOutput notSqlite]
  | change => rw [commandOutput, declared_changeColumnsOutput notSqlite]
  | comment => exact absurd rfl other
  | _ =>
    rw [Declared.tableComments_gather]
    refine flatMap_commandOutput ?_ rfl
    intro statement silent
    rw [(Statement.declared_of_declaresNothing silent).1]

include single

/-- Declarations of one kind are all made by the creation, or by the change and the addition, if the
command for the comment on the table makes none of them. -/
theorem part_output {β : Type} {part : Declared → List β}
    (gathers : ∀ statements, part (gather Statement.declared statements) =
      statements.flatMap fun statement => part statement.declared)
    (noneOfNone : part {} = [])
    (noComment : part (gather Statement.declared (tableCommentOutput dialect plan)) = []) :
    part (gather Statement.declared (plan.output dialect)) =
      part (gather Statement.declared (plan.declaringOutput dialect)) := by
  rw [gathers] at noComment
  rw [gathers, gathers]
  refine flatMap_output ?_ noComment order single
  intro statement silent
  rw [(Statement.declared_of_declaresNothing silent).1, noneOfNone]

include notSqlite

/-- The comment is attached once: in mysql by the creation of a new table, and by its own command
elsewhere. -/
theorem tableComments_output :
    (gather Statement.declared (plan.output dialect)).tableComments = plan.comment.toList := by
  have comment := congrArg Declared.tableComments (declared_tableCommentOutput notSqlite plan).1
  have declaring := congrArg Declared.tableComments (declared_declaringOutput notSqlite plan).1
  by_cases creates : plan.creating = true ∧ dialect = .mysql
  · rw [if_pos creates] at comment
    rw [part_output order single (Declared.tableComments_gather _) rfl comment, declaring,
      if_pos creates]
  · rw [if_neg creates] at comment
    cases given : plan.comment with
    | none =>
      rw [given] at comment
      rw [part_output order single (Declared.tableComments_gather _) rfl comment,
        declaring, if_neg creates]
      rfl
    | some text =>
      have asked : .comment ∈ plan.commands :=
        (mem_commands_iff order .comment nofun nofun).mpr (order.comment.mpr (by rw [given]; rfl))
      rw [Declared.tableComments_gather] at comment ⊢
      rw [output, List.flatMap_assoc, ← given]
      refine Eq.trans (flatMap_of_nodup (nodup_commands order) asked ?_) comment
      intro other listed different
      rw [← Declared.tableComments_gather]
      exact tableComments_commandOutput notSqlite order listed different creates

/-- What stands apart from the comment on the table is declared by the creation, or by the change
and the addition. -/
theorem gather_output :
    (gather Statement.declared (plan.output dialect)).foreignKeys =
      (gather Statement.declared (plan.declaringOutput dialect)).foreignKeys ∧
    (gather Statement.declared (plan.output dialect)).indexes =
      (gather Statement.declared (plan.declaringOutput dialect)).indexes ∧
    (gather Statement.declared (plan.output dialect)).columnComments =
      (gather Statement.declared (plan.declaringOutput dialect)).columnComments ∧
    (plan.output dialect).filter Statement.isSeparate =
      (plan.declaringOutput dialect).filter Statement.isSeparate := by
  have filtered (statements : List Statement) : statements.filter Statement.isSeparate =
      statements.flatMap fun statement => only statement.isSeparate statement := by
    induction statements with
    | nil => rfl
    | cons statement rest ih =>
      rw [List.flatMap_cons, ← ih]
      cases own : statement.isSeparate <;> simp [own, only]
  obtain ⟨comment, joint⟩ := declared_tableCommentOutput notSqlite plan
  rw [filtered] at joint
  refine ⟨?_, ?_, ?_, ?_⟩
  · exact part_output order single (Declared.foreignKeys_gather _) rfl
      (congrArg Declared.foreignKeys comment)
  · exact part_output order single (Declared.indexes_gather _) rfl
      (congrArg Declared.indexes comment)
  · exact part_output order single (Declared.columnComments_gather _) rfl
      (congrArg Declared.columnComments comment)
  · rw [filtered, filtered]
    refine flatMap_output ?_ joint order single
    intro statement silent
    rw [(Statement.declared_of_declaresNothing silent).2]
    rfl

/-- Unless the creation may be repeated, all foreign keys have statements of their own, so none is
left for the other statements. -/
theorem foreignKeys_eq_nil_of_joint (fresh : plan.ifNotExists = false) {statement : Statement}
    (member : statement ∈ plan.output dialect) (joint : statement.isSeparate = false) :
    statement.declared.foreignKeys = [] := by
  obtain ⟨foreignKeys, _, _, separate⟩ := gather_output notSqlite order single
  obtain ⟨declared, due⟩ := declared_declaringOutput notSqlite plan
  rw [due] at separate
  rw [declared] at foreignKeys
  have total := ((List.filter_append_perm Statement.isSeparate
    (plan.output dialect)).flatMap_right fun statement =>
      statement.declared.foreignKeys).length_eq
  have own := length_foreignKeys_separateStatements dialect fresh
  rw [← Declared.foreignKeys_gather, ← Declared.foreignKeys_gather, foreignKeys,
    Declared.gather_append, Declared.foreignKeys_append, separate, List.length_append,
    List.length_map] at total
  have left : (gather Statement.declared
      ((plan.output dialect).filter fun statement => !statement.isSeparate)).foreignKeys = [] :=
    List.eq_nil_of_length_eq_zero (by omega)
  rw [Declared.foreignKeys_gather, List.flatMap_eq_nil_iff] at left
  exact left statement (List.mem_filter.mpr ⟨member, by simp [joint]⟩)

/-- The foreign keys of a repeatable creation stand inside it; elsewhere each has a statement of its
own. -/
theorem place_of_foreignKeys {statement : Statement} (member : statement ∈ plan.output dialect)
    (declares : statement.declared.foreignKeys ≠ []) :
    if plan.ifNotExists then statement.createsTable = true
    else ∃ key ∈ plan.foreignKeys, statement = foreignKeyAddition plan key := by
  cases own : statement.isSeparate with
  | true =>
    have listed : statement ∈ separateStatements dialect plan := by
      rw [← (declared_declaringOutput notSqlite plan).2,
        ← (gather_output notSqlite order single).2.2.2]
      exact List.mem_filter.mpr ⟨member, own⟩
    obtain ⟨fresh, addition⟩ :=
      (foreignKeys_of_mem_separateStatements notSqlite listed).resolve_left declares
    rw [fresh]
    exact addition
  | false =>
    have repeatable : plan.ifNotExists = true := by
      by_contra fresh
      rw [Bool.not_eq_true] at fresh
      exact declares (foreignKeys_eq_nil_of_joint notSqlite order single fresh member own)
    rw [if_pos repeatable]
    by_contra other
    rw [Bool.not_eq_true] at other
    rw [Statement.isSeparate_of_foreignKeys declares other] at own
    cases own

end

/-! ## Plans that are built -/

end Plan

end TablePlan

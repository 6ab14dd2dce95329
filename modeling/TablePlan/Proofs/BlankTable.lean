import TablePlan.Plan.Step
import TablePlan.Proofs.Outcome

/-!
# Tables without a name

Every command that has statements looks at the name of the table before anything else.  In sqlite
commenting and dropping full-text indexes have none, and they pass over the table.  Main statement: a
plan is refused for the name of its table exactly when that name is blank and one of its commands
looks at it, and with a blank name and no such command there is nothing to carry out
(`emptyTableName_toSql`).
-/

namespace TablePlan

/-- Whether a command looks at the table. -/
def Command.looksAtTable (dialect : Dialect) : Command → Bool
  | .comment | .dropFullText => dialect ≠ .sqlite
  | _ => true

namespace Compile

/-! ## A blank name is the first fault -/

section
variable (dialect : Dialect) {plan : Plan} (blank : Text.isBlank plan.table = true)
include blank

/-- Whatever else is wrong, the name of the table is found out first. -/
theorem commandVerdict_of_blank (asked : Command) :
    commandVerdict dialect plan asked = refuseIf (asked.looksAtTable dialect) .emptyTableName := by
  have table : checkTable plan = .error .emptyTableName := by
    rw [checkTable, blank]
    rfl
  have first (others : Except CompileError Unit) :
      (checkTable plan >>= fun _ => others) = .error .emptyTableName := by
    rw [table]
    rfl
  cases asked with
  | create | createIfNotExists =>
    have creation : createTableVerdict dialect plan = .error .emptyTableName := first _
    rw [commandVerdict, creation]
    rfl
  | add =>
    have addition : addColumnsVerdict dialect plan = .error .emptyTableName := first _
    rw [commandVerdict, addition]
    rfl
  | drop | dropIfExists => exact table
  | dropFullText =>
    cases dialect with
    | sqlite => rfl
    | postgres | mysql => exact first _
  | comment =>
    cases dialect with
    | sqlite => rfl
    | postgres | mysql => exact table
  | _ => exact first _

theorem verdict_of_blank : plan.verdict dialect =
    refuseIf (plan.commands.any (Command.looksAtTable dialect)) .emptyTableName := by
  have each : plan.verdict dialect = plan.commands.forM fun asked =>
      refuseIf (asked.looksAtTable dialect) .emptyTableName :=
    forM_congr fun asked _ => commandVerdict_of_blank dialect blank asked
  rw [each]
  generalize plan.commands = commands
  induction commands with
  | nil => rfl
  | cons asked rest ih =>
    show (refuseIf (asked.looksAtTable dialect) .emptyTableName >>= fun _ => rest.forM _) = _
    rw [ih, List.any_cons]
    cases asked.looksAtTable dialect <;> rfl

end

/-- A command that passes over the table is never refused and has no statements. -/
theorem passes_of_not_looksAtTable {dialect : Dialect} (plan : Plan) {asked : Command}
    (passesOver : asked.looksAtTable dialect = false) :
    commandVerdict dialect plan asked = .ok () ∧ commandOutput dialect plan asked = [] := by
  cases asked with
  | comment | dropFullText =>
    cases dialect with
    | sqlite => exact ⟨rfl, rfl⟩
    | postgres | mysql => cases passesOver
  | _ => cases passesOver

/-! ## Verdicts that spare the table -/

/-- A verdict that does not blame the name of the table. -/
def SparesTable (verdict : Except CompileError Unit) : Prop :=
  verdict ≠ .error .emptyTableName

namespace SparesTable

theorem pass : SparesTable (.ok ()) := nofun

theorem refuseIf {condition : Bool} {fault : CompileError} (other : fault ≠ .emptyTableName) :
    SparesTable (refuseIf condition fault) := by
  cases condition with
  | false => exact pass
  | true => exact fun same => other (Except.error.inj same)

theorem bind {first second : Except CompileError Unit} (spared : SparesTable first)
    (next : SparesTable second) : SparesTable (first >>= fun _ => second) := by
  cases first with
  | error fault => exact spared
  | ok u => exact next

theorem forM {α : Type} {verdict : α → Except CompileError Unit}
    (each : ∀ a, SparesTable (verdict a)) (list : List α) : SparesTable (list.forM verdict) := by
  induction list with
  | nil => exact pass
  | cons a rest ih => exact bind (each a) ih

end SparesTable

open SparesTable (pass bind forM)

theorem sparesTable_checkColumns (plan : Plan) : SparesTable (checkColumns plan) := by
  have run (seen : List String) : SparesTable (checkColumnsAfter plan.table seen plan.columns) := by
    induction plan.columns generalizing seen with
    | nil => exact pass
    | cons column rest ih =>
      exact bind (.refuseIf nofun) (bind (.refuseIf nofun) (bind (.refuseIf nofun)
        (bind (.refuseIf nofun) (ih _))))
  exact run []

theorem sparesTable_checkIndex (plan : Plan) (index : Index) : SparesTable (checkIndex plan index) :=
  bind (.refuseIf nofun) (bind (.refuseIf nofun) (.refuseIf nofun))

theorem sparesTable_checkForeignKey (plan : Plan) (key : ForeignKey) :
    SparesTable (checkForeignKey plan key) :=
  bind (.refuseIf nofun) (bind (.refuseIf nofun) (.refuseIf nofun))

section
variable (dialect : Dialect) {plan : Plan} (named : SparesTable (checkTable plan))

theorem sparesTable_tableConstraintsVerdict :
    SparesTable (tableConstraintsVerdict dialect plan) := by
  have key : SparesTable (primaryKeyVerdict plan) := by
    unfold primaryKeyVerdict
    split
    · exact pass
    · exact sparesTable_checkIndex plan _
  have autoincrement : SparesTable (autoincrementVerdict dialect plan) := by
    unfold autoincrementVerdict
    split
    · exact .refuseIf nofun
    · exact nofun
    · exact pass
  have keys : SparesTable (inlineKeysVerdict dialect plan) := by
    unfold inlineKeysVerdict
    split
    · exact forM (sparesTable_checkIndex plan) _
    · exact pass
  have foreign : SparesTable (inlineForeignKeysVerdict dialect plan) := by
    unfold inlineForeignKeysVerdict
    split
    · exact forM (sparesTable_checkForeignKey plan) _
    · exact pass
  exact bind (bind key autoincrement) (bind keys foreign)

include named

theorem sparesTable_definitionsVerdict : SparesTable (definitionsVerdict dialect plan) := by
  have index (index : Index) : SparesTable (indexVerdict dialect plan index) :=
    bind named (bind (sparesTable_checkIndex plan index) (.refuseIf nofun))
  have foreign (key : ForeignKey) : SparesTable (foreignKeyVerdict dialect plan key) :=
    bind named (bind (sparesTable_checkForeignKey plan key) (.refuseIf nofun))
  exact bind (forM index _) (forM foreign _)

theorem sparesTable_dropIndexesVerdict (names : List String) :
    SparesTable (dropIndexesVerdict plan names) :=
  bind named (.refuseIf nofun)

/-- No command blames a table that has a name. -/
theorem sparesTable_commandVerdict (asked : Command) :
    SparesTable (commandVerdict dialect plan asked) := by
  have columns := sparesTable_checkColumns plan
  have definitions := sparesTable_definitionsVerdict dialect named
  cases asked with
  | create | createIfNotExists =>
    exact bind (bind named (bind columns (sparesTable_tableConstraintsVerdict dialect))) definitions
  | add => exact bind (bind named (bind columns (.refuseIf nofun))) definitions
  | change =>
    refine bind named ?_
    cases dialect with
    | postgres | mysql => exact columns
    | sqlite => exact .refuseIf nofun
  | drop | dropIfExists => exact named
  | rename | dropColumn | renameColumn => exact bind named (.refuseIf nofun)
  | dropIndex | dropUnique => exact sparesTable_dropIndexesVerdict named _
  | dropFullText =>
    show SparesTable (dropFullTextsVerdict dialect plan)
    unfold dropFullTextsVerdict
    split
    · exact pass
    · exact sparesTable_dropIndexesVerdict named _
  | dropPrimary | renameIndex | dropForeign => exact bind named (.refuseIf nofun)
  | comment =>
    show SparesTable (tableCommentVerdict dialect plan)
    unfold tableCommentVerdict
    split
    · exact pass
    · exact named

end

end Compile

namespace Plan

open Compile

/-- Whether a plan asks only for what sqlite has no statement for. -/
def PassesOverTable (dialect : Dialect) (plan : Plan) : Prop :=
  dialect = .sqlite ∧ ∀ asked ∈ plan.commands, asked = .comment ∨ asked = .dropFullText

theorem passesOverTable_iff {dialect : Dialect} {plan : Plan} (asks : plan.commands ≠ []) :
    plan.PassesOverTable dialect ↔ plan.commands.any (Command.looksAtTable dialect) = false := by
  have each (asked : Command) : asked.looksAtTable dialect = false ↔
      dialect = .sqlite ∧ (asked = .comment ∨ asked = .dropFullText) := by
    cases asked <;> simp [Command.looksAtTable]
  obtain ⟨first, listed⟩ := List.exists_mem_of_ne_nil _ asks
  simp only [PassesOverTable, List.any_eq_false, Bool.not_eq_true, each]
  constructor
  · rintro ⟨sqlite, all⟩ asked member
    exact ⟨sqlite, all asked member⟩
  · intro all
    exact ⟨(all first listed).1, fun asked member => (all asked member).2⟩

/-- A plan with something to carry out, whatever it holds, is refused for the name of its table
exactly when that name is blank, except in sqlite if it only comments and drops full-text indexes:
such a plan compiles to nothing, blank name or not. -/
theorem emptyTableName_toSql (dialect : Dialect) (plan : Plan) (asks : plan.commands ≠ []) :
    (plan.toSql dialect = .error .emptyTableName ↔
      Text.isBlank plan.table = true ∧ ¬ plan.PassesOverTable dialect) ∧
    (plan.PassesOverTable dialect → plan.toSql dialect = .ok []) := by
  have split := toSql_splits dialect plan
  rw [split.eq_error_iff, split.eq_ok_iff, passesOverTable_iff asks, Bool.not_eq_false]
  constructor
  · constructor
    · intro refused
      cases blank : Text.isBlank plan.table with
      | true =>
        rw [verdict_of_blank dialect blank] at refused
        refine ⟨rfl, ?_⟩
        by_contra passes
        rw [Bool.not_eq_true] at passes
        rw [passes] at refused
        cases refused
      | false =>
        have named : SparesTable (checkTable plan) := by
          rw [checkTable, blank]
          exact SparesTable.pass
        exact absurd refused (SparesTable.forM (sparesTable_commandVerdict dialect named) _)
    · rintro ⟨blank, looks⟩
      rw [verdict_of_blank dialect blank, looks]
      rfl
  · intro passes
    have each (asked : Command) (listed : asked ∈ plan.commands) :=
      passes_of_not_looksAtTable plan (by simpa using List.any_eq_false.mp passes asked listed)
    refine ⟨forM_eq_ok_iff.mpr fun asked listed => (each asked listed).1, ?_⟩
    have nothing : plan.output dialect = [] :=
      List.flatMap_eq_nil_iff.mpr fun asked listed => (each asked listed).2
    rw [nothing, List.map_nil]

/-- White space is no name: sqlite refuses the comment together with the drop that is asked for
behind it, and postgres refuses the comment alone. -/
theorem emptyTableName_toSql_whiteSpace :
    (build "\u00a0\t" [.comment "x", .drop]).commands ≠ [] ∧
      (build "\u00a0\t" [.comment "x", .drop]).toSql .sqlite = .error .emptyTableName ∧
      (build "\u00a0\t" [.comment "x"]).toSql .postgres = .error .emptyTableName := by
  refine ⟨by decide, ?_, ?_⟩
  · refine (emptyTableName_toSql .sqlite _ (by decide)).1.mpr ⟨by decide, fun passes => ?_⟩
    exact absurd (passes.2 .drop (by decide)) (by decide)
  · refine (emptyTableName_toSql .postgres _ (by decide)).1.mpr ⟨by decide, fun passes => ?_⟩
    cases passes.1

/-- In sqlite a comment on a table without a name compiles to nothing, and so does dropping a
full-text index of it; postgres and mysql refuse both. -/
theorem blankTable_commented :
    (build "" [.comment "x"]).commands = [.comment] ∧
      (build "" [.comment "x"]).toSql .sqlite = .ok [] ∧
      (build "" [.dropFullText "i"]).toSql .sqlite = .ok [] ∧
      (build "" [.comment "x"]).toSql .mysql = .error .emptyTableName ∧
      (build "" [.dropFullText "i"]).toSql .mysql = .error .emptyTableName := by
  decide +kernel

end Plan

end TablePlan

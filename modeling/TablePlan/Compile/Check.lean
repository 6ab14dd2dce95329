import TablePlan.Compile.Error
import TablePlan.Plan

/-!
# Checks before a statement is written

Each check looks at one part of a plan and reports the first fault in it.  A blank name is as good
as none.  Main statements: the columns of a plan pass exactly when each is well defined and no two
have the same name (`checkColumns_eq_ok_iff`), and the like for indexes and foreign keys.
-/

namespace TablePlan.Compile

open Text (isBlank)

/-- Reports a fault if a condition holds. -/
def refuseIf (condition : Bool) (fault : CompileError) : Except CompileError Unit :=
  if condition then .error fault else .ok ()

/-- The table has a name. -/
def checkTable (plan : Plan) : Except CompileError Unit :=
  refuseIf (isBlank plan.table) .emptyTableName

/-- The first fault of the columns, `seen` being the names of those before them: a column has a
name of its own, an enumeration has values, and a number that is the default is finite. -/
def checkColumnsAfter (table : String) (seen : List String) :
    List Column → Except CompileError Unit
  | [] => .ok ()
  | column :: rest => do
    refuseIf (isBlank column.name) (.emptyColumnName table)
    refuseIf (seen.contains column.name) (.duplicateColumn table column.name)
    refuseIf (column.type = .enumeration []) (.emptyEnumeration column.name)
    refuseIf (column.defaultValue.any DefaultValue.isNonFinite) (.nonFiniteDefault column.name)
    checkColumnsAfter table (column.name :: seen) rest

/-- All columns of the plan are well defined. -/
def checkColumns (plan : Plan) : Except CompileError Unit :=
  checkColumnsAfter plan.table [] plan.columns

/-- None of some column names is blank. -/
def checkColumnNames (plan : Plan) (names : List String) : Except CompileError Unit :=
  refuseIf (names.any isBlank) (.emptyColumnName plan.table)

/-- None of some index names is blank. -/
def checkIndexNames (plan : Plan) (names : List String) : Except CompileError Unit :=
  refuseIf (names.any isBlank) (.emptyIndexName plan.table)

/-- An index covers columns, all named; a name of its own is not blank. -/
def checkIndex (plan : Plan) (index : Index) : Except CompileError Unit := do
  refuseIf index.columns.isEmpty (.emptyIndexColumns plan.table index.kind)
  checkColumnNames plan index.columns
  checkIndexNames plan index.name.toList

/-- A foreign key has a column, a referenced table and a referenced column. -/
def checkForeignKey (plan : Plan) (key : ForeignKey) : Except CompileError Unit := do
  refuseIf (isBlank key.column) (.incompleteForeignKey plan.table .column)
  refuseIf (isBlank key.referencedTable) (.incompleteForeignKey plan.table .referencedTable)
  refuseIf (isBlank key.referencedColumn) (.incompleteForeignKey plan.table .referencedColumn)

/-- The new name of the table, if it is one. -/
def newName (plan : Plan) : Except CompileError String :=
  match plan.newName with
  | none => .error (.missingNewName plan.table)
  | some name => if isBlank name then .error (.missingNewName plan.table) else .ok name

/-! ## When the checks pass -/

@[simp] theorem refuseIf_eq_ok_iff {condition : Bool} {fault : CompileError} {u : Unit} :
    refuseIf condition fault = .ok u ↔ condition = false := by
  cases condition <;> simp [refuseIf]

/-- Work behind a check succeeds exactly when the check passes and the work succeeds. -/
theorem refuseIf_bind_eq_ok_iff {α : Type} {condition : Bool} {fault : CompileError}
    {next : Unit → Except CompileError α} {a : α} :
    (refuseIf condition fault >>= next) = .ok a ↔ condition = false ∧ next () = .ok a := by
  cases condition <;> simp [refuseIf, bind, Except.bind]

theorem checkTable_eq_ok_iff {plan : Plan} {u : Unit} :
    checkTable plan = .ok u ↔ isBlank plan.table = false := by
  simp [checkTable]

theorem checkIndex_eq_ok_iff {plan : Plan} {index : Index} {u : Unit} :
    checkIndex plan index = .ok u ↔
      index.columns ≠ [] ∧ (∀ column ∈ index.columns, isBlank column = false) ∧
        (∀ name ∈ index.name, isBlank name = false) := by
  simp [checkIndex, checkColumnNames, checkIndexNames, refuseIf_bind_eq_ok_iff]

theorem checkForeignKey_eq_ok_iff {plan : Plan} {key : ForeignKey} {u : Unit} :
    checkForeignKey plan key = .ok u ↔
      isBlank key.column = false ∧ isBlank key.referencedTable = false ∧
        isBlank key.referencedColumn = false := by
  simp [checkForeignKey, refuseIf_bind_eq_ok_iff]

/-- A column is well defined by itself, apart from the others. -/
def IsWellDefined (column : Column) : Prop :=
  isBlank column.name = false ∧ column.type ≠ .enumeration [] ∧
    column.defaultValue.any DefaultValue.isNonFinite = false

theorem checkColumnsAfter_eq_ok_iff {table : String} {seen : List String} {columns : List Column}
    {u : Unit} :
    checkColumnsAfter table seen columns = .ok u ↔
      (∀ column ∈ columns, IsWellDefined column ∧ column.name ∉ seen) ∧
        (columns.map Column.name).Nodup := by
  induction columns generalizing seen with
  | nil => simp [checkColumnsAfter]
  | cons column rest ih =>
    simp only [checkColumnsAfter, refuseIf_bind_eq_ok_iff, ih, decide_eq_false_iff_not,
      List.contains_eq_mem, List.mem_cons, List.map_cons, List.nodup_cons, List.mem_map,
      IsWellDefined, not_or, not_exists, not_and]
    grind

theorem checkColumns_eq_ok_iff {plan : Plan} {u : Unit} :
    checkColumns plan = .ok u ↔
      (∀ column ∈ plan.columns, IsWellDefined column) ∧
        (plan.columns.map Column.name).Nodup := by
  simp [checkColumns, checkColumnsAfter_eq_ok_iff]

end TablePlan.Compile

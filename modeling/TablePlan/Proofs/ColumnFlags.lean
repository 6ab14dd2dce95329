import Mathlib.Data.List.Forall2
import Mathlib.Data.List.Induction
import TablePlan.Proofs.Commands

/-!
# The flags and the types of columns

A column, an index or a foreign key joins the others at the end of its list, and what is said of it
alters it where it stands (`appends_apply`), so the definitions of a plan only grow
(`extends_append`).  No column has the name of a key or an index without that key or index
(`Column.flagsAgree_declare`), and each keeps its type but for a precision that may be left open
(`Column.keepsTo_declare`).  Main statement: the definitions of a plan that is built stay as they were
stated (`definitions_stay_as_stated`).
-/

namespace TablePlan

/-! ## Types but for a precision -/

namespace ColumnType

/-- The precision of a type that may leave it open. -/
def openPrecision? : ColumnType → Option (Option UInt8)
  | .float precision | .time precision | .timeTz precision | .dateTime precision
  | .dateTimeTz precision | .timestamp precision | .timestampTz precision => some precision
  | _ => none

/-- The same type with the same parameters, but for a precision that may be left open. -/
inductive SameButPrecision : ColumnType → ColumnType → Prop where
  | same (type : ColumnType) : SameButPrecision type type
  | float (first second : Option UInt8) : SameButPrecision (.float first) (.float second)
  | time (first second : Option UInt8) : SameButPrecision (.time first) (.time second)
  | timeTz (first second : Option UInt8) : SameButPrecision (.timeTz first) (.timeTz second)
  | dateTime (first second : Option UInt8) : SameButPrecision (.dateTime first) (.dateTime second)
  | dateTimeTz (first second : Option UInt8) :
    SameButPrecision (.dateTimeTz first) (.dateTimeTz second)
  | timestamp (first second : Option UInt8) :
    SameButPrecision (.timestamp first) (.timestamp second)
  | timestampTz (first second : Option UInt8) :
    SameButPrecision (.timestampTz first) (.timestampTz second)

theorem sameButPrecision_withPrecision (precision : UInt8) (type : ColumnType) :
    type.SameButPrecision (type.withPrecision precision) := by
  cases type with
  | float | time | timeTz | dateTime | dateTimeTz | timestamp | timestampTz => constructor
  | _ => exact .same _

theorem openPrecision?_withPrecision (precision : UInt8) (type : ColumnType) :
    (type.withPrecision precision).openPrecision? =
      type.openPrecision?.map fun _ => some precision := by
  cases type <;> rfl

/-- The last word on a precision counts. -/
theorem withPrecision_withPrecision (first second : UInt8) (type : ColumnType) :
    (type.withPrecision first).withPrecision second = type.withPrecision second := by
  cases type <;> rfl

end ColumnType

/-! ## What is said of a column -/

/-- The precision that a modifier states. -/
def ColumnModifier.precision? : ColumnModifier → Option UInt8
  | .precision digits => some digits
  | _ => none

/-- The last precision that some modifiers state. -/
def ColumnModifier.lastPrecision? (modifiers : List ColumnModifier) : Option UInt8 :=
  (modifiers.filterMap precision?).getLast?

theorem ColumnModifier.lastPrecision?_concat (modifiers : List ColumnModifier)
    (modifier : ColumnModifier) :
    lastPrecision? (modifiers ++ [modifier]) = modifier.precision?.or (lastPrecision? modifiers) := by
  cases modifier <;> simp [lastPrecision?, precision?]

namespace Column

/-- A column that counts up by itself, or has the name of its key, is part of the primary key, and one
with the name of an index of its own has that index. -/
structure FlagsAgree (column : Column) : Prop where
  autoIncrement : column.autoIncrement = true → column.primary = true
  primaryName : column.primaryName.isSome = true → column.primary = true
  uniqueName : column.uniqueName.isSome = true → column.unique = true
  indexName : column.indexName.isSome = true → column.index = true

/-- Nothing but the way in which plans are built rules out a name without its index. -/
example : ¬ ({ name := "a", type := .text, uniqueName := some "u" } : Column).FlagsAgree :=
  fun agree => Bool.false_ne_true (agree.uniqueName rfl)

/-- A column has the name and the type that were stated of it.  The precision of a type that may leave
it open is the last one stated, or else that of the type. -/
structure KeepsTo (column : Column) (name : String) (type : ColumnType)
    (modifiers : List ColumnModifier) : Prop where
  sameName : column.name = name
  sameType : type.SameButPrecision column.type
  precision : column.type.openPrecision? =
    type.openPrecision?.map (ColumnModifier.lastPrecision? modifiers).or

/-- The column is the one that a step states. -/
def StatedBy (column : Column) (step : Step) : Prop :=
  ∃ name type modifiers, step = .column name type modifiers ∧ column.KeepsTo name type modifiers

theorem FlagsAgree.apply {column : Column} (agree : column.FlagsAgree) (modifier : ColumnModifier) :
    (modifier.apply column).FlagsAgree := by
  cases modifier with
  | autoIncrement | primary | primaryNamed =>
    exact ⟨fun _ => rfl, fun _ => rfl, agree.uniqueName, agree.indexName⟩
  | unique | uniqueNamed =>
    exact ⟨agree.autoIncrement, agree.primaryName, fun _ => rfl, agree.indexName⟩
  | index | indexNamed =>
    exact ⟨agree.autoIncrement, agree.primaryName, agree.uniqueName, fun _ => rfl⟩
  | nullable | default | comment | collation | precision | unsigned | change =>
    exact ⟨agree.autoIncrement, agree.primaryName, agree.uniqueName, agree.indexName⟩

section
variable (name : String) (type : ColumnType) (modifiers : List ColumnModifier)

/-- What is said last is applied last, so what every modifier keeps is shown from the end of a list. -/
theorem declare_concat (modifier : ColumnModifier) :
    declare name type (modifiers ++ [modifier]) = modifier.apply (declare name type modifiers) := by
  simp [declare]

theorem flagsAgree_declare : (declare name type modifiers).FlagsAgree := by
  induction modifiers using List.reverseRecOn with
  | nil => exact ⟨nofun, nofun, nofun, nofun⟩
  | append_singleton modifiers modifier ih =>
    rw [declare_concat]
    exact ih.apply modifier

theorem name_declare : (declare name type modifiers).name = name := by
  induction modifiers using List.reverseRecOn with
  | nil => rfl
  | append_singleton modifiers modifier ih =>
    rw [declare_concat]
    cases modifier <;> exact ih

/-- Of all modifiers only the last precision is seen in the type. -/
theorem type_declare : (declare name type modifiers).type =
    (ColumnModifier.lastPrecision? modifiers).elim type fun digits => type.withPrecision digits := by
  induction modifiers using List.reverseRecOn with
  | nil => rfl
  | append_singleton modifiers modifier ih =>
    rw [declare_concat, ColumnModifier.lastPrecision?_concat]
    cases modifier with
    | precision digits =>
      rw [ColumnModifier.apply, ih]
      cases ColumnModifier.lastPrecision? modifiers with
      | none => rfl
      | some earlier => exact type.withPrecision_withPrecision earlier digits
    | _ => exact ih

theorem keepsTo_declare : (declare name type modifiers).KeepsTo name type modifiers := by
  refine ⟨name_declare name type modifiers, ?_, ?_⟩
  · rw [type_declare]
    cases ColumnModifier.lastPrecision? modifiers with
    | none => exact .same type
    | some digits => exact type.sameButPrecision_withPrecision digits
  · rw [type_declare]
    cases ColumnModifier.lastPrecision? modifiers with
    | none => exact (congrFun Option.map_id _).symm
    | some digits => exact type.openPrecision?_withPrecision digits

end

end Column

/-! ## What a step does to the definitions -/

namespace Step

/-- The index that a step adds to a plan, if it states one. -/
def indexes : Step → List Index
  | .index kind columns modifiers => [Index.declare kind columns modifiers]
  | _ => []

/-- The foreign key that a step adds to a plan, if it states one. -/
def foreignKeys : Step → List ForeignKey
  | .foreignKey name modifiers => [ForeignKey.declare name modifiers]
  | _ => []

/-- Whether the step states a column. -/
def statesColumn : Step → Bool
  | .column .. => true
  | _ => false

end Step

/-- What alters the last entry where it stands leaves the earlier ones as they are. -/
theorem foldl_modify_last {α β σ : Type} {alter : σ → β → σ} {change : β → α → α}
    (place : List α → σ) (earlier : List α)
    (each : ∀ list b, alter (place list) b = place (list.modify earlier.length (change b))) (a : α)
    (changes : List β) : changes.foldl alter (place (earlier ++ [a])) =
      place (earlier ++ [changes.foldl (fun a b => change b a) a]) := by
  induction changes generalizing a with
  | nil => rfl
  | cons b rest ih =>
    have last : (earlier ++ [a]).modify earlier.length (change b) = earlier ++ [change b a] := by
      simp [List.modify_eq_take_drop]
    rw [List.foldl_cons, each, last, ih, List.foldl_cons]

/-- If each entry puts something at the end of a part, a list of entries puts all of it there. -/
theorem foldl_appends {α β γ : Type} {advance : α → β → α} {part : α → List γ} {added : β → List γ}
    (each : ∀ a b, part (advance a b) = part a ++ added b) (list : List β) (a : α) :
    part (list.foldl advance a) = part a ++ list.flatMap added := by
  induction list generalizing a with
  | nil => exact (List.append_nil _).symm
  | cons b rest ih => rw [List.foldl_cons, ih, each, List.flatMap_cons, List.append_assoc]

namespace Plan

/-- The plan with a property stated of the column at a position. -/
def alterColumn (position : Nat) (plan : Plan) (modifier : ColumnModifier) : Plan :=
  { plan with columns := plan.columns.modify position modifier.apply }

/-- The plan with a property stated of the index at a position. -/
def alterIndex (position : Nat) (plan : Plan) (modifier : IndexModifier) : Plan :=
  { plan with indexes := plan.indexes.modify position modifier.apply }

/-- The plan with a property stated of the foreign key at a position. -/
def alterForeignKey (position : Nat) (plan : Plan) (modifier : ForeignKeyModifier) : Plan :=
  { plan with foreignKeys := plan.foreignKeys.modify position modifier.apply }

/-- A step puts the definition that it states behind the others of its sort, and what it has yet to
say of it alters the plan there and nowhere else. -/
structure Appends (plan : Plan) (step : Step) : Prop where
  columns : (plan.apply step).columns = plan.columns ++ step.columns
  indexes : (plan.apply step).indexes = plan.indexes ++ step.indexes
  foreignKeys : (plan.apply step).foreignKeys = plan.foreignKeys ++ step.foreignKeys
  column : ∀ name type said unsaid, step = .column name type (said ++ unsaid) →
    plan.apply step =
      unsaid.foldl (alterColumn plan.columns.length) (plan.apply (.column name type said))
  index : ∀ kind columns said unsaid, step = .index kind columns (said ++ unsaid) →
    plan.apply step =
      unsaid.foldl (alterIndex plan.indexes.length) (plan.apply (.index kind columns said))
  foreignKey : ∀ column said unsaid, step = .foreignKey column (said ++ unsaid) →
    plan.apply step =
      unsaid.foldl (alterForeignKey plan.foreignKeys.length) (plan.apply (.foreignKey column said))

/-- The definitions of a plan are the first ones of a later plan. -/
structure Extends (plan later : Plan) : Prop where
  columns : plan.columns <+: later.columns
  indexes : plan.indexes <+: later.indexes
  foreignKeys : plan.foreignKeys <+: later.foreignKeys

section
variable (plan : Plan) (step : Step)

theorem indexes_request (command : Command) : (plan.request command).indexes = plan.indexes := by
  unfold request
  split <;> rfl

theorem foreignKeys_request (command : Command) :
    (plan.request command).foreignKeys = plan.foreignKeys := by
  unfold request
  split <;> rfl

theorem indexes_apply : (plan.apply step).indexes = plan.indexes ++ step.indexes := by
  cases step with
  | index => rfl
  | engine | charset | collation | column | foreignKey => exact (List.append_nil _).symm
  | _ => exact (indexes_request _ _).trans (List.append_nil _).symm

theorem foreignKeys_apply :
    (plan.apply step).foreignKeys = plan.foreignKeys ++ step.foreignKeys := by
  cases step with
  | foreignKey => rfl
  | engine | charset | collation | column | index => exact (List.append_nil _).symm
  | _ => exact (foreignKeys_request _ _).trans (List.append_nil _).symm

/-- Properties stated of the last column alter it where it stands. -/
theorem apply_column_append (name : String) (type : ColumnType)
    (said unsaid : List ColumnModifier) :
    plan.apply (.column name type (said ++ unsaid)) =
      unsaid.foldl (alterColumn plan.columns.length) (plan.apply (.column name type said)) := by
  rw [apply, Column.declare, List.foldl_append]
  exact Eq.symm (foldl_modify_last (fun columns => { plan with columns }) plan.columns
    (fun _ _ => rfl) (Column.declare name type said) unsaid)

theorem apply_index_append (kind : IndexKind) (columns : List String)
    (said unsaid : List IndexModifier) :
    plan.apply (.index kind columns (said ++ unsaid)) =
      unsaid.foldl (alterIndex plan.indexes.length) (plan.apply (.index kind columns said)) := by
  rw [apply, Index.declare, List.foldl_append]
  exact Eq.symm (foldl_modify_last (fun indexes => { plan with indexes }) plan.indexes
    (fun _ _ => rfl) (Index.declare kind columns said) unsaid)

theorem apply_foreignKey_append (column : String) (said unsaid : List ForeignKeyModifier) :
    plan.apply (.foreignKey column (said ++ unsaid)) =
      unsaid.foldl (alterForeignKey plan.foreignKeys.length)
        (plan.apply (.foreignKey column said)) := by
  rw [apply, ForeignKey.declare, List.foldl_append]
  exact Eq.symm (foldl_modify_last (fun foreignKeys => { plan with foreignKeys }) plan.foreignKeys
    (fun _ _ => rfl) (ForeignKey.declare column said) unsaid)

theorem appends_apply : plan.Appends step := by
  refine ⟨columns_apply plan step, indexes_apply plan step, foreignKeys_apply plan step, ?_, ?_, ?_⟩
  · rintro name type said unsaid rfl
    exact apply_column_append plan name type said unsaid
  · rintro kind columns said unsaid rfl
    exact apply_index_append plan kind columns said unsaid
  · rintro column said unsaid rfl
    exact apply_foreignKey_append plan column said unsaid

end

/-! ## Plans that are built -/

section
variable (table : String) (steps : List Step)

/-- The columns of a plan that is built are those that its steps state, in their order. -/
theorem columns_build : (build table steps).columns = steps.flatMap Step.columns :=
  foldl_appends columns_apply steps { table }

theorem extends_append (more : List Step) :
    (build table steps).Extends (build table (steps ++ more)) := by
  rw [build_append]
  refine ⟨?_, ?_, ?_⟩
  · exact ⟨_, (foldl_appends columns_apply more _).symm⟩
  · exact ⟨_, (foldl_appends indexes_apply more _).symm⟩
  · exact ⟨_, (foldl_appends foreignKeys_apply more _).symm⟩

/-- The columns of a plan and the steps that state a column come in pairs. -/
theorem statedBy_build : List.Forall₂ Column.StatedBy (build table steps).columns
    (steps.filter Step.statesColumn) := by
  rw [columns_build]
  induction steps with
  | nil => exact .nil
  | cons step rest ih =>
    cases step with
    | column name type modifiers =>
      exact .cons ⟨name, type, modifiers, rfl, Column.keepsTo_declare name type modifiers⟩ ih
    | _ => exact ih

/-- Every step puts what it states behind the other definitions of a plan and alters none of them, so
they stay as they are whatever else is stated.  In every column the flags agree with the names, a
column has the name and the type of its statement, and a precision is seen in the type alone, where
the type may leave it open. -/
theorem definitions_stay_as_stated :
    (∀ step, (build table steps).Appends step) ∧
    (∀ more, (build table steps).Extends (build table (steps ++ more))) ∧
    (∀ column ∈ (build table steps).columns, column.FlagsAgree) ∧
    List.Forall₂ Column.StatedBy (build table steps).columns (steps.filter Step.statesColumn) ∧
    ∀ (digits : UInt8) (column : Column), ∃ type,
      (ColumnModifier.precision digits).apply column = { column with type } ∧
        column.type.SameButPrecision type ∧
        type.openPrecision? = column.type.openPrecision?.map fun _ => some digits := by
  refine ⟨appends_apply _, extends_append table steps, ?_, statedBy_build table steps, ?_⟩
  · exact forall_mem_columns_build Column.flagsAgree_declare table steps
  · intro digits column
    exact ⟨_, rfl, column.type.sameButPrecision_withPrecision digits,
      column.type.openPrecision?_withPrecision digits⟩

end

/-- Of the precisions of a `float` the last one counts, an enumeration has none, and a time that is
stated later leaves both as they are. -/
theorem definitions_stay_as_stated_measures :
    let ratio : List ColumnModifier := [.precision 10, .uniqueNamed "u", .precision 24]
    let steps : List Step :=
      [.id [], .column "ratio" (.float none) ratio, .index .unique ["id", "ratio"] [.named "k"],
        .column "kind" (.enumeration ["a", "b"]) [.precision 3, .indexNamed "i", .primaryNamed "p"]]
    let later : Step := .column "at" (.timestamp none) [.precision 6, .nullable]
    let columns : List Column :=
      [{ name := "id", type := .bigInteger, unsigned := true, autoIncrement := true, primary := true },
        { name := "ratio", type := .float (some 24), unique := true, uniqueName := some "u" },
        { name := "kind", type := .enumeration ["a", "b"], primary := true, primaryName := some "p",
          index := true, indexName := some "i" }]
    (build "t" steps).columns = columns ∧
    (build "t" steps).Appends later ∧
    (build "t" steps).Extends (build "t" (steps ++ [later])) ∧
    (∀ column ∈ columns, column.FlagsAgree) ∧
    columns[1].KeepsTo "ratio" (.float none) ratio := by
  intro ratio steps later columns
  have built : (build "t" steps).columns = columns := rfl
  obtain ⟨appends, grown, agree, stated, _⟩ := definitions_stay_as_stated "t" steps
  rw [built] at agree stated
  refine ⟨built, appends later, grown [later], agree, ?_⟩
  obtain ⟨_, _, _, same, kept⟩ := stated.get (i := 1) (by decide) (by decide)
  cases same
  exact kept

end Plan

end TablePlan

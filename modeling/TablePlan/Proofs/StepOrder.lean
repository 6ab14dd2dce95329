import TablePlan.Compile
import TablePlan.Proofs.UnreadParts

/-!
# The order of steps

Steps come in families: columns, indexes, foreign keys, the options of the table, and what asks for a
command.  Each family writes its own share of a plan.  Main statement: how the steps of different
families are interleaved is not seen in the plan, and in which order a column is given properties that
share no field is not seen in the column (`interleaving_unseen`).
-/

namespace TablePlan

/-! ## Families of steps -/

/-- The families of steps. -/
inductive Family where
  | columns
  | indexes
  | foreignKeys
  | options
  | commands
  deriving DecidableEq, Repr

/-- The family of a step. -/
def Step.family : Step → Family
  | .column .. => .columns
  | .index .. => .indexes
  | .foreignKey .. => .foreignKeys
  | .engine _ | .charset _ | .collation _ => .options
  | _ => .commands

namespace Plan

/-- The plan for the same table with what the steps of one family write. -/
def share (family : Family) (plan : Plan) : Plan :=
  match family with
  | .columns => { table := plan.table, columns := plan.columns }
  | .indexes => { table := plan.table, indexes := plan.indexes }
  | .foreignKeys => { table := plan.table, foreignKeys := plan.foreignKeys }
  | .options =>
    { table := plan.table
      engine := plan.engine
      charset := plan.charset
      collation := plan.collation }
  | .commands =>
    { plan with
      engine := none
      charset := none
      collation := none
      columns := []
      indexes := []
      foreignKeys := [] }

/-- Asking for a command is seen in the share of the commands alone. -/
theorem share_request (family : Family) (plan : Plan) (asked : Command) :
    (plan.request asked).share family =
      if family = .commands then (plan.share family).request asked else plan.share family := by
  unfold request
  by_cases present : asked ∈ plan.requested <;> cases family <;> simp [share, present]

/-- A step is seen in the share of its family alone. -/
theorem share_apply (family : Family) (plan : Plan) (step : Step) :
    (plan.apply step).share family =
      (Option.guard (fun step => step.family = family) step).elim (plan.share family)
        (plan.share family).apply := by
  cases step with
  | column | index | foreignKey | engine | charset | collation => cases family <;> rfl
  | _ =>
    rw [apply, share_request]
    cases family <;> rfl

/-- The share of a family is built of its steps. -/
theorem share_build (family : Family) (table : String) (steps : List Step) :
    (build table steps).share family =
      build table (steps.filter fun step => step.family = family) := by
  have start : ({ table } : Plan).share family = { table } := by cases family <;> rfl
  unfold build
  rw [foldl_kept (share_apply family), start, List.filterMap_eq_filter]

/-- Every part of a plan belongs to the share of a family. -/
theorem eq_of_share {plan other : Plan} (same : ∀ family, plan.share family = other.share family) :
    plan = other := by
  have columns := same .columns
  have indexes := same .indexes
  have foreignKeys := same .foreignKeys
  have options := same .options
  have commands := same .commands
  cases plan
  cases other
  simp_all only [share, mk.injEq]

end Plan

/-! ## Fields of columns -/

/-- The fields of a column. -/
inductive ColumnField where
  | name
  | type
  | nullable
  | defaultValue
  | comment
  | collation
  | unsigned
  | autoIncrement
  | primary
  | primaryName
  | unique
  | uniqueName
  | index
  | indexName
  | change
  deriving DecidableEq, Repr

/-- What a field holds. -/
def ColumnField.Value : ColumnField → Type
  | .name => String
  | .type => ColumnType
  | .defaultValue => Option DefaultValue
  | .comment | .collation | .primaryName | .uniqueName | .indexName => Option String
  | .nullable | .unsigned | .autoIncrement | .primary | .unique | .index | .change => Bool

/-- What a column holds in a field. -/
def Column.get (column : Column) : (field : ColumnField) → field.Value
  | .name => column.name
  | .type => column.type
  | .nullable => column.nullable
  | .defaultValue => column.defaultValue
  | .comment => column.comment
  | .collation => column.collation
  | .unsigned => column.unsigned
  | .autoIncrement => column.autoIncrement
  | .primary => column.primary
  | .primaryName => column.primaryName
  | .unique => column.unique
  | .uniqueName => column.uniqueName
  | .index => column.index
  | .indexName => column.indexName
  | .change => column.change

theorem Column.eq_of_get {column other : Column} (same : ∀ field, column.get field = other.get field) :
    column = other := by
  cases column
  cases other
  rw [mk.injEq]
  exact ⟨same .name, same .type, same .nullable, same .defaultValue, same .comment, same .collation,
    same .unsigned, same .autoIncrement, same .primary, same .primaryName, same .unique,
    same .uniqueName, same .index, same .indexName, same .change⟩

namespace ColumnModifier

/-- The fields that a modifier writes.  A precision is part of the type. -/
def fields : ColumnModifier → List ColumnField
  | .nullable => [.nullable]
  | .default _ => [.defaultValue]
  | .comment _ => [.comment]
  | .collation _ => [.collation]
  | .precision _ => [.type]
  | .unsigned => [.unsigned]
  | .autoIncrement => [.autoIncrement, .primary]
  | .primary => [.primary]
  | .primaryNamed _ => [.primary, .primaryName]
  | .unique => [.unique]
  | .uniqueNamed _ => [.unique, .uniqueName]
  | .index => [.index]
  | .indexNamed _ => [.index, .indexName]
  | .change => [.change]

/-- Whether a modifier writes a field. -/
def writes (field : ColumnField) (modifier : ColumnModifier) : Bool :=
  field ∈ modifier.fields

section
variable {field : ColumnField}

theorem get_apply_of_not_writes {modifier : ColumnModifier} (other : modifier.writes field = false)
    (column : Column) : (modifier.apply column).get field = column.get field := by
  cases modifier <;> cases field <;> first | rfl | cases other

/-- The fields that a modifier writes are those that it can change. -/
theorem writes_iff (modifier : ColumnModifier) :
    modifier.writes field = true ↔ ∃ column, (modifier.apply column).get field ≠ column.get field := by
  constructor
  · intro written
    refine ⟨{ name := "", type := .float none }, ?_⟩
    cases modifier <;> cases field <;> cases written <;> exact nofun
  · rintro ⟨column, changed⟩
    by_contra other
    exact changed (get_apply_of_not_writes (Bool.eq_false_iff.mpr other) column)

theorem get_apply_congr (modifier : ColumnModifier) {column other : Column}
    (same : column.get field = other.get field) :
    (modifier.apply column).get field = (modifier.apply other).get field := by
  cases written : modifier.writes field with
  | false => rw [get_apply_of_not_writes written, get_apply_of_not_writes written, same]
  | true =>
    cases modifier with
    | precision digits =>
      cases field <;> cases written
      exact congrArg (ColumnType.withPrecision digits) same
    | _ => cases field <;> first | rfl | cases written

end

end ColumnModifier

/-- What a column holds in a field is the work of the modifiers that write it. -/
theorem Column.get_declare (name : String) (type : ColumnType) (modifiers : List ColumnModifier)
    (field : ColumnField) : (declare name type modifiers).get field =
      (declare name type (modifiers.filter (ColumnModifier.writes field))).get field := by
  -- The two runs part at the first modifier that is left out, so the induction is over two columns.
  have run (column other : Column) (same : column.get field = other.get field) :
      (modifiers.foldl (fun column modifier => modifier.apply column) column).get field =
        ((modifiers.filter (ColumnModifier.writes field)).foldl
          (fun column modifier => modifier.apply column) other).get field := by
    induction modifiers generalizing column other with
    | nil => exact same
    | cons modifier rest ih =>
      rw [List.foldl_cons, List.filter_cons]
      cases written : modifier.writes field with
      | true =>
        rw [if_pos rfl, List.foldl_cons]
        exact ih _ _ (modifier.get_apply_congr same)
      | false =>
        rw [if_neg Bool.false_ne_true]
        exact ih _ _ ((ColumnModifier.get_apply_of_not_writes written column).trans same)
  exact run _ _ rfl

namespace Plan

/-- Two sequences of steps with the same steps of each family in the same order build the same plan,
which asks for the same commands and compiles to the same in every dialect.  A modifier writes the
fields that it can change, and two sequences of modifiers with the same writers of each field in the
same order declare the same column. -/
theorem interleaving_unseen :
    (∀ (table : String) (first second : List Step),
      (∀ family, first.filter (fun step => step.family = family) =
        second.filter fun step => step.family = family) →
      build table first = build table second ∧
        (build table first).commands = (build table second).commands ∧
        ∀ dialect, (build table first).toSql dialect = (build table second).toSql dialect) ∧
    (∀ (field : ColumnField) (modifier : ColumnModifier), modifier.writes field = true ↔
      ∃ column, (modifier.apply column).get field ≠ column.get field) ∧
    ∀ (name : String) (type : ColumnType) (first second : List ColumnModifier),
      (∀ field, first.filter (ColumnModifier.writes field) =
        second.filter (ColumnModifier.writes field)) →
      Column.declare name type first = Column.declare name type second := by
  refine ⟨?_, fun _ modifier => modifier.writes_iff, ?_⟩
  · intro table first second same
    have plans : build table first = build table second :=
      eq_of_share fun family => by rw [share_build, share_build, same family]
    rw [plans]
    exact ⟨rfl, rfl, fun _ => rfl⟩
  · intro name type first second same
    refine Column.eq_of_get fun field => ?_
    rw [Column.get_declare, same field, ← Column.get_declare]

/-- A creation with its options and keys behind or between its columns, and a key that counts up by
itself with its properties in either order. -/
theorem interleaving_unseen_users :
    let ordered : List Step :=
      [.create, .id [], .column "team" .bigInteger [.unsigned], .index .unique ["team"] [],
        .foreignKey "team" [.references "id", .on "teams"], .engine "InnoDB", .comment "people"]
    let mixed : List Step :=
      [.engine "InnoDB", .foreignKey "team" [.references "id", .on "teams"], .create, .id [],
        .index .unique ["team"] [], .comment "people", .column "team" .bigInteger [.unsigned]]
    let first : List ColumnModifier := [.primaryNamed "pk", .unsigned, .autoIncrement, .precision 3]
    let second : List ColumnModifier := [.precision 3, .primaryNamed "pk", .autoIncrement, .unsigned]
    (∀ family, ordered.filter (fun step => step.family = family) =
      mixed.filter fun step => step.family = family) ∧
    (build "users" ordered).toSql .mysql = (build "users" mixed).toSql .mysql ∧
    (∀ field, first.filter (ColumnModifier.writes field) =
      second.filter (ColumnModifier.writes field)) ∧
    Column.declare "id" (.float none) first = Column.declare "id" (.float none) second := by
  intro ordered mixed first second
  have steps : ∀ family, ordered.filter (fun step => step.family = family) =
      mixed.filter fun step => step.family = family := by
    intro family
    cases family <;> rfl
  have modifiers : ∀ field, first.filter (ColumnModifier.writes field) =
      second.filter (ColumnModifier.writes field) := by
    intro field
    cases field <;> rfl
  exact ⟨steps, (interleaving_unseen.1 "users" ordered mixed steps).2.2 .mysql, modifiers,
    interleaving_unseen.2.2 "id" (.float none) first second modifiers⟩

/-- Within a family the order counts. -/
example : build "t" [.dropColumn "a", .renameColumn "b" "a"] ≠
    build "t" [.renameColumn "b" "a", .dropColumn "a"] := by
  decide

end Plan

end TablePlan

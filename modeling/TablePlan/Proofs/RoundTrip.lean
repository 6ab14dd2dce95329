import TablePlan.Plan.Json
import TablePlan.Compile
import TablePlan.Proofs.Json.Numbers
import TablePlan.Proofs.Json.Sequences

/-!
# Plans read back from their text

Every part of a plan reads back from its JSON, a floating-point default apart: it may be rounded on
the way, and what is not finite is not written at all.  Main statement: a plan without such a default
is read back from its text as it was, so the trip changes neither its text nor its commands nor its
statements (`ofText_toText`).
-/

namespace TablePlan

open Json (Codec Case Field Fields)

theorem SpatialKind.faithful (kind : SpatialKind) : SpatialKind.codec.Faithful kind :=
  Json.faithful_names (by decide) (by cases kind <;> decide)

theorem IndexKind.faithful (kind : IndexKind) : IndexKind.codec.Faithful kind :=
  Json.faithful_names (by decide) (by cases kind <;> decide)

theorem IndexMethod.faithful (method : IndexMethod) : IndexMethod.codec.Faithful method :=
  Json.faithful_names (by decide) (by cases method <;> decide)

theorem ReferentialAction.faithful (action : ReferentialAction) :
    ReferentialAction.codec.Faithful action :=
  Json.faithful_names (by decide) (by cases action <;> decide)

theorem Command.faithful (command : Command) : Command.codec.Faithful command :=
  Json.faithful_names (by decide) (by cases command <;> decide)

/-! ## Column types -/

namespace ColumnType

theorem distinct_cases : (cases.map Case.name).Nodup := by decide +kernel

/-- A type without parameters reads back by its name. -/
theorem faithful_plain {type : ColumnType} (listed : type ∈ plain)
    (written : write type = Json.writeBare type.jsonName) : codec.Faithful type := by
  have choice : .bare type.jsonName type ∈ cases :=
    List.mem_append_left _ (List.mem_append_left _ (List.mem_map.mpr ⟨type, listed, rfl⟩))
  exact Json.faithful_bare rfl distinct_cases choice written

/-- A type with parameters reads back with them. -/
theorem faithful_parameters {types : List Type} {name : String} {fields : Fields types}
    {make : Json.Values types → ColumnType} (listed : .record name fields make ∈ cases)
    (values : Json.Values types)
    (written : write (make values) = Json.writeHolding name ((Json.record fields).write values))
    (distinct : fields.names.Nodup) (inner : fields.ReadsBack values) :
    codec.Faithful (make values) :=
  Json.faithful_holding rfl distinct_cases listed (Json.faithful_record distinct inner) written

/-- A precision may be left open. -/
theorem faithful_precise (make : Option UInt8 → ColumnType) (listed : make ∈ precise)
    (precision : Option UInt8)
    (written : write (make precision) = Json.writeHolding (make none).jsonName
      ((Json.record precisionFields).write (precision, ()))) :
    codec.Faithful (make precision) := by
  have choice : .record (make none).jsonName precisionFields (fun values => make values.1) ∈ cases :=
    List.mem_append_left _ (List.mem_append_right _ (List.mem_map.mpr ⟨make, listed, rfl⟩))
  have open? : Json.byte.orNull.ReadsBack precision :=
    Json.readsBack_orNull fun digits _ => Json.faithful_byte digits
  exact faithful_parameters choice (precision, ()) written (by decide) ⟨open?, trivial⟩

/-- Every type reads back. -/
theorem faithful (type : ColumnType) : codec.Faithful type := by
  cases type with
  | char length =>
    have listed : .record "Char" lengthFields (fun values => .char values.1) ∈ cases :=
      List.mem_append_right _ (.head _)
    exact faithful_parameters listed (length, ()) rfl (by decide)
      ⟨(Json.faithful_word length).readsBack, trivial⟩
  | string length =>
    have listed : .record "String" lengthFields (fun values => .string values.1) ∈ cases :=
      List.mem_append_right _ (.tail _ (.head _))
    exact faithful_parameters listed (length, ()) rfl (by decide)
      ⟨(Json.faithful_word length).readsBack, trivial⟩
  | decimal precision scale =>
    have listed : .record "Decimal" decimalFields
        (fun values => .decimal values.1 values.2.1) ∈ cases :=
      List.mem_append_right _ (.tail _ (.tail _ (.head _)))
    exact faithful_parameters listed (precision, scale, ()) rfl (by decide)
      ⟨(Json.faithful_byte precision).readsBack, (Json.faithful_byte scale).readsBack, trivial⟩
  | float precision => exact faithful_precise .float (by simp [precise]) precision rfl
  | time precision => exact faithful_precise .time (by simp [precise]) precision rfl
  | timeTz precision => exact faithful_precise .timeTz (by simp [precise]) precision rfl
  | dateTime precision => exact faithful_precise .dateTime (by simp [precise]) precision rfl
  | dateTimeTz precision => exact faithful_precise .dateTimeTz (by simp [precise]) precision rfl
  | timestamp precision => exact faithful_precise .timestamp (by simp [precise]) precision rfl
  | timestampTz precision => exact faithful_precise .timestampTz (by simp [precise]) precision rfl
  | enumeration allowed =>
    have listed : .record "Enum" enumerationFields
        (fun values => .enumeration values.1) ∈ cases :=
      List.mem_append_right _ (.tail _ (.tail _ (.tail _ (.head _))))
    have texts := Json.faithful_list fun value (_ : value ∈ allowed) => Json.faithful_text value
    exact faithful_parameters listed (allowed, ()) rfl (by decide) ⟨texts.readsBack, trivial⟩
  | spatial kind srid =>
    have listed : .record "Spatial" spatialFields
        (fun values => .spatial values.1 values.2.1) ∈ cases :=
      List.mem_append_right _ (.tail _ (.tail _ (.tail _ (.tail _ (.head _)))))
    have system := Json.readsBack_orNull fun id (_ : id ∈ srid) => Json.faithful_word id
    exact faithful_parameters listed (kind, srid, ()) rfl (by decide)
      ⟨kind.faithful.readsBack, system, trivial⟩
  | _ => exact faithful_plain (by decide) rfl

end ColumnType

/-! ## Default values -/

namespace DefaultValue

/-- Every default reads back that is no floating-point number. -/
theorem faithful {value : DefaultValue} (noFloat : ∀ x, value ≠ .float x) :
    codec.Faithful value := by
  have distinct : (cases.map Case.name).Nodup := by decide
  cases value with
  | null =>
    have listed : .bare "Null" .null ∈ cases := by simp [cases]
    exact Json.faithful_bare rfl distinct listed rfl
  | boolean value =>
    have listed : .holding "Boolean" Json.boolean .boolean ∈ cases := by simp [cases]
    exact Json.faithful_holding rfl distinct listed (Json.faithful_boolean value) rfl
  | integer value =>
    have listed : .holding "Integer" Json.signedWord .integer ∈ cases := by simp [cases]
    exact Json.faithful_holding rfl distinct listed (Json.faithful_signedWord value) rfl
  | float x => exact absurd rfl (noFloat x)
  | string value =>
    have listed : .holding "String" Json.text .string ∈ cases := by simp [cases]
    exact Json.faithful_holding rfl distinct listed (Json.faithful_text value) rfl
  | expression sql =>
    have listed : .holding "Expression" Json.text .expression ∈ cases := by simp [cases]
    exact Json.faithful_holding rfl distinct listed (Json.faithful_text sql) rfl

end DefaultValue

/-! ## Columns, indexes and foreign keys -/

theorem readsBack_text (value : String) : Json.text.ReadsBack value :=
  (Json.faithful_text value).readsBack

theorem readsBack_flag (value : Bool) : Json.boolean.ReadsBack value :=
  (Json.faithful_boolean value).readsBack

theorem readsBack_textOrNull (value : Option String) : Json.text.orNull.ReadsBack value :=
  Json.readsBack_orNull fun text _ => Json.faithful_text text

theorem readsBack_texts (values : List String) : Json.text.list.ReadsBack values :=
  (Json.faithful_list fun value _ => Json.faithful_text value).readsBack

/-- Every column reads back whose default is no floating-point number. -/
theorem Column.faithful {column : Column} (noFloat : ∀ x, column.defaultValue ≠ some (.float x)) :
    Column.codec.Faithful column := by
  have default? : DefaultValue.codec.orNull.ReadsBack column.defaultValue := by
    refine Json.readsBack_orNull fun value given => DefaultValue.faithful fun x isFloat => ?_
    exact noFloat x (isFloat ▸ given)
  refine Json.faithful_map (Json.faithful_record (by decide) ?_) rfl
  exact ⟨readsBack_text _, column.type.faithful.readsBack, readsBack_flag _, default?,
    readsBack_textOrNull _, readsBack_textOrNull _, readsBack_flag _, readsBack_flag _,
    readsBack_flag _, readsBack_textOrNull _, readsBack_flag _, readsBack_textOrNull _,
    readsBack_flag _, readsBack_textOrNull _, readsBack_flag _, trivial⟩

theorem Index.faithful (index : Index) : Index.codec.Faithful index := by
  have method? := Json.readsBack_orNull fun method (_ : method ∈ index.method) => method.faithful
  refine Json.faithful_map (Json.faithful_record (by decide) ?_) rfl
  exact ⟨index.kind.faithful.readsBack, readsBack_texts _, readsBack_textOrNull _, method?, trivial⟩

theorem ForeignKey.faithful (key : ForeignKey) : ForeignKey.codec.Faithful key := by
  have action? (action : Option ReferentialAction) :=
    Json.readsBack_orNull fun present (_ : present ∈ action) => present.faithful
  refine Json.faithful_map (Json.faithful_record (by decide) ?_) rfl
  exact ⟨readsBack_text _, readsBack_text _, readsBack_text _, action? _, action? _,
    readsBack_textOrNull _, trivial⟩

/-! ## Plans -/

namespace Plan

theorem readsBack_renames (renames : List (String × String)) : renamesCodec.ReadsBack renames :=
  (Json.faithful_list fun rename _ =>
    Json.faithful_pair (Json.faithful_text rename.1) (Json.faithful_text rename.2)).readsBack

theorem faithful {plan : Plan}
    (noFloat : ∀ column ∈ plan.columns, ∀ x, column.defaultValue ≠ some (.float x)) :
    codec.Faithful plan := by
  have columns : Column.codec.list.Faithful plan.columns :=
    Json.faithful_list fun column listed => Column.faithful (noFloat column listed)
  have indexes : Index.codec.list.Faithful plan.indexes :=
    Json.faithful_list fun index _ => index.faithful
  have foreignKeys : ForeignKey.codec.list.Faithful plan.foreignKeys :=
    Json.faithful_list fun key _ => key.faithful
  have commands : Command.codec.list.Faithful plan.requested :=
    Json.faithful_list fun command _ => command.faithful
  refine Json.faithful_map (Json.faithful_record (by decide) ?_) rfl
  exact ⟨readsBack_text _, readsBack_textOrNull _, readsBack_textOrNull _, readsBack_textOrNull _,
    readsBack_textOrNull _, readsBack_textOrNull _, columns.readsBack, indexes.readsBack,
    foreignKeys.readsBack, readsBack_texts _, readsBack_renames _, readsBack_texts _,
    readsBack_texts _, readsBack_texts _, readsBack_texts _, readsBack_textOrNull _,
    readsBack_renames _, commands.readsBack, trivial⟩

/-- A plan without floating-point defaults is read back from its text.  So a text and the text of the
plan that it stands for mean the same plan: written again it stays as it is, and it asks for the same
commands and compiles alike in each dialect. -/
theorem ofText_toText (plan : Plan)
    (noFloat : ∀ column ∈ plan.columns, ∀ x, column.defaultValue ≠ some (.float x)) :
    codec.ofText (codec.toText plan) = .ok plan ∧
      ∀ text, codec.ofText text = .ok plan → ∃ again, codec.ofText (codec.toText plan) = .ok again ∧
        codec.toText again = codec.toText plan ∧ again.commands = plan.commands ∧
        ∀ dialect, again.toSql dialect = plan.toSql dialect := by
  have readBack : codec.ofText (codec.toText plan) = .ok plan := by
    have read := (faithful noFloat).readsBack [] .nil
    rw [List.append_nil] at read
    simp [Codec.ofText, Codec.toText, read, Json.skipSpace, bind, Except.bind, pure, Except.pure]
  exact ⟨readBack, fun text _ => ⟨plan, readBack, rfl, rfl, fun _ => rfl⟩⟩

/-- Quotes, control characters and characters beyond ASCII, the ends of the ranges of numbers, values
given and left open, and commands that no sequence of steps asks for. -/
theorem ofText_toText_extremes :
    let plan : Plan :=
      { table := "t\"\\\n\t\x01\x7fé€"
        comment := some ""
        columns :=
          [{ name := "a", type := .decimal 0 255, defaultValue := some (.integer Int64.minValue) },
           { name := "", type := .enumeration ["null", "]", ","], defaultValue := some .null },
           { name := "b", type := .spatial .point (some 0xFFFFFFFF),
             defaultValue := some (.string "0.5"), collation := some "null" },
           { name := "c", type := .timeTz none, defaultValue := some (.integer Int64.maxValue) }]
        indexes := [{ kind := .fullText, columns := [], method := some .gin }]
        renameColumns := [("a", "\x00"), ("\r", "")]
        requested := [.change, .createIfNotExists, .change] }
    codec.ofText (codec.toText plan) = .ok plan ∧
      ∃ again, codec.ofText (codec.toText plan) = .ok again ∧
        codec.toText again = codec.toText plan ∧ again.commands = plan.commands ∧
        ∀ dialect, again.toSql dialect = plan.toSql dialect := by
  intro plan
  have noFloat : ∀ column ∈ plan.columns, ∀ x, column.defaultValue ≠ some (.float x) := by
    simp [plan]
  obtain ⟨readBack, trip⟩ := ofText_toText plan noFloat
  exact ⟨readBack, trip _ readBack⟩

end Plan

end TablePlan

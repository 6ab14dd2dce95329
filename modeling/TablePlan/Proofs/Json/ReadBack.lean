import Mathlib.Data.List.Nodup
import TablePlan.Json.Choice

/-!
# Reading back what was written

A codec reads a value back when its reader takes what its writer gave, and no more, off the front of
a text in which the value is followed by a comma, a closing bracket or nothing.  A number could not
be read back in front of a digit, so what follows matters.  A value is told from null and from the
end of a list by its first character.  Main statements: scalars, missing values and the cases of a
choice read back (`faithful_text`, `readsBack_orNull`, `faithful_holding`).
-/

namespace TablePlan.Json

/-- What may follow a value: the end of the text, a comma or a closing bracket. -/
def Delimited (rest : List Char) : Prop :=
  ∀ c ∈ rest.head?, c = ',' ∨ c = ']' ∨ c = '}'

theorem Delimited.nil : Delimited [] := nofun

theorem Delimited.cons {c : Char} (delimiter : c = ',' ∨ c = ']' ∨ c = '}') (rest : List Char) :
    Delimited (c :: rest) := by
  intro head isHead
  cases isHead
  exact delimiter

/-- The written value is read, and nothing behind it. -/
def Codec.ReadsBack {α : Type} (codec : Codec α) (value : α) : Prop :=
  ∀ rest, Delimited rest → codec.read (codec.write value ++ rest) = .ok (value, rest)

/-- A text that neither begins with white space nor like null nor with the end of an array. -/
def Opens (written : List Char) : Prop :=
  ∃ c rest, written = c :: rest ∧ isSpace c = false ∧ c ≠ 'n' ∧ c ≠ ']'

theorem Opens.of_cons {c : Char} (rest : List Char) (noSpace : isSpace c = false) (noNull : c ≠ 'n')
    (noEnd : c ≠ ']') : Opens (c :: rest) :=
  ⟨c, rest, rfl, noSpace, noNull, noEnd⟩

/-- The value is read back, and is not taken for null or the end of a list. -/
structure Codec.Faithful {α : Type} (codec : Codec α) (value : α) : Prop where
  readsBack : codec.ReadsBack value
  opens : Opens (codec.write value)

theorem skipSpace_cons {c : Char} (noSpace : isSpace c = false) (rest : List Char) :
    skipSpace (c :: rest) = c :: rest := by
  simp [skipSpace, noSpace]

theorem opens_writeText (text : List Char) : Opens (writeText text) :=
  .of_cons _ (by decide) (by decide) (by decide)

/-! ## Values of other types -/

section
variable {α β : Type} {codec : Codec α}

theorem faithful_map {make : α → β} {parts : β → α} {value : β}
    (inner : codec.Faithful (parts value)) (inverse : make (parts value) = value) :
    (codec.map make parts).Faithful value := by
  refine ⟨fun rest delimited => ?_, inner.opens⟩
  simp [Codec.map, inner.readsBack rest delimited, inverse, bind, Except.bind, pure, Except.pure]

theorem faithful_filterMap {make? : α → Option β} {parts : β → α} {value : β}
    (inner : codec.Faithful (parts value)) (inverse : make? (parts value) = some value) :
    (codec.filterMap make? parts).Faithful value := by
  refine ⟨fun rest delimited => ?_, inner.opens⟩
  simp [Codec.filterMap, inner.readsBack rest delimited, inverse, bind, Except.bind, pure,
    Except.pure]

/-! ## Scalars -/

theorem faithful_text (value : String) : text.Faithful value :=
  ⟨fun rest _ => read_write_text value rest, opens_writeText value.toList⟩

theorem faithful_boolean (value : Bool) : boolean.Faithful value := by
  cases value with
  | true =>
    have noSpace : isSpace 't' = false := by decide
    refine ⟨fun rest _ => ?_, .of_cons "rue".toList noSpace (by decide) (by decide)⟩
    show boolean.read ('t' :: ("rue".toList ++ rest)) = _
    simp only [boolean, skipSpace_cons noSpace, readWord_append]
    rfl
  | false =>
    have noSpace : isSpace 'f' = false := by decide
    refine ⟨fun rest _ => ?_, .of_cons "alse".toList noSpace (by decide) (by decide)⟩
    show boolean.read ('f' :: ("alse".toList ++ rest)) = _
    simp only [boolean, skipSpace_cons noSpace, readWord_append]
    rfl

/-- A value that may be missing reads back; when it is there, it does not look like null. -/
theorem readsBack_orNull {value : Option α}
    (inner : ∀ present ∈ value, codec.Faithful present) : codec.orNull.ReadsBack value := by
  intro rest delimited
  cases value with
  | none =>
    show codec.orNull.read ('n' :: ("ull".toList ++ rest)) = _
    have noSpace : isSpace 'n' = false := by decide
    simp only [Codec.orNull, skipSpace_cons noSpace, readWord_append]
    rfl
  | some present =>
    obtain ⟨readsBack, c, tail, written, noSpace, noNull, _⟩ := inner present rfl
    have read : codec.read (c :: (tail ++ rest)) = .ok (present, rest) := by
      rw [← List.cons_append, ← written]
      exact readsBack rest delimited
    show codec.orNull.read (codec.write present ++ rest) = _
    rw [written]
    simp only [Codec.orNull, List.cons_append, skipSpace_cons noSpace]
    split
    · next isNull => exact absurd (List.cons.inj isNull).1 noNull
    · rw [read]
      rfl

end

/-! ## Choices -/

section
variable {α : Type} {cases : List (Case α)}

/-- Among cases of different names each is found by its name. -/
theorem caseOf_of_mem (distinct : (cases.map Case.name).Nodup) {choice : Case α}
    (listed : choice ∈ cases) : caseOf cases choice.name = .ok choice.content := by
  have found : cases.find? (fun other => other.name = choice.name) = some choice := by
    induction cases with
    | nil => cases listed
    | cons first others ih =>
      rw [List.map_cons, List.nodup_cons] at distinct
      rcases List.mem_cons.mp listed with rfl | later
      · simp
      · have different : first.name ≠ choice.name := by
          intro same
          exact distinct.1 (same ▸ List.mem_map_of_mem later)
        simp [different, ih distinct.2 later]
  rw [caseOf, found]

theorem read_writeBare (distinct : (cases.map Case.name).Nodup) {name : String} {value : α}
    (listed : .bare name value ∈ cases) (rest : List Char) :
    readChoice cases (writeBare name ++ rest) = .ok (value, rest) := by
  have found : caseOf cases name = .ok (.nothing value) := caseOf_of_mem distinct listed
  have quote : isSpace '"' = false := by decide
  have written : writeBare name ++ rest = '"' :: (name.toList.flatMap escapeChar ++ '"' :: rest) := by
    simp [writeBare, writeText]
  rw [written]
  simp only [readChoice, skipSpace_cons quote, readTextInside_flatMap_escapeChar]
  simp [found, bind, Except.bind, pure, Except.pure]

/-- A case with a content reads back with its content. -/
theorem read_writeHolding (distinct : (cases.map Case.name).Nodup) {β : Type} {name : String}
    {codec : Codec β} {make : β → α} (listed : .holding name codec make ∈ cases) {content : β}
    (inner : codec.ReadsBack content) (rest : List Char) :
    readChoice cases (writeHolding name (codec.write content) ++ rest) =
      .ok (make content, rest) := by
  have found : caseOf cases name = .ok (Case.holding name codec make).content :=
    caseOf_of_mem distinct listed
  have quote : isSpace '"' = false := by decide
  have brace : isSpace '{' = false := by decide
  have written : writeHolding name (codec.write content) ++ rest =
      '{' :: '"' :: (name.toList.flatMap escapeChar ++
        '"' :: ':' :: (codec.write content ++ '}' :: rest)) := by
    simp [writeHolding, writeText]
  have colon : readColon (':' :: (codec.write content ++ '}' :: rest)) =
      .ok (codec.write content ++ '}' :: rest) := rfl
  have close : closeObject ('}' :: rest) = .ok rest := rfl
  have read := inner ('}' :: rest) (.cons (.inr (.inr rfl)) rest)
  rw [written]
  simp only [readChoice, skipSpace_cons brace, readName, skipSpace_cons quote,
    readTextInside_flatMap_escapeChar]
  simp [found, Case.holding, colon, read, close, bind, Except.bind, pure, Except.pure]

/-! A type whose codec is a choice reads back case by case. -/

variable {codec : Codec α} (choice : codec.read = readChoice cases)
  (distinct : (cases.map Case.name).Nodup)
include choice distinct

theorem faithful_bare {name : String} {value : α} (listed : .bare name value ∈ cases)
    (written : codec.write value = writeBare name) : codec.Faithful value := by
  constructor
  · intro rest _
    rw [choice, written]
    exact read_writeBare distinct listed rest
  · rw [written]
    exact opens_writeText name.toList

theorem faithful_holding {β : Type} {name : String} {inner : Codec β} {make : β → α}
    (listed : .holding name inner make ∈ cases) {content : β} (faithful : inner.Faithful content)
    (written : codec.write (make content) = writeHolding name (inner.write content)) :
    codec.Faithful (make content) := by
  constructor
  · intro rest _
    rw [choice, written]
    exact read_writeHolding distinct listed faithful.readsBack rest
  · rw [written]
    exact .of_cons _ (by decide) (by decide) (by decide)

omit choice distinct in
/-- A value of a closed list reads back by its name. -/
theorem faithful_names {name : α → String} {values : List α} (distinct : (values.map name).Nodup)
    {value : α} (listed : value ∈ values) : (names name values).Faithful value := by
  have caseNames : ((values.map fun value => Case.bare (name value) value).map Case.name).Nodup := by
    rw [List.map_map]
    exact distinct
  have choice : .bare (name value) value ∈ values.map fun value => Case.bare (name value) value :=
    List.mem_map.mpr ⟨value, listed, rfl⟩
  exact faithful_bare rfl caseNames choice rfl

end

end TablePlan.Json

/-!
# Dotted names

The name of a table may carry a schema: `app.users` is the table `users` of the schema `app`.
Everything that has to take such a name apart cuts it into its segments here, so that the parts
agree by construction.  Main statement: the segments joined by dots are the name again
(`intercalate_cut`).
-/

namespace TablePlan.Name

/-- Cuts a text at every dot; a text without dots is one segment. -/
def cut : List Char → List (List Char)
  | [] => [[]]
  | c :: rest =>
    if c = '.' then [] :: cut rest
    else match cut rest with
      | [] => [[c]]
      | first :: others => (c :: first) :: others

/-- The segments of a name, from the outermost to the innermost. -/
def segments (name : String) : List String :=
  (cut name.toList).map String.ofList

/-- The name without its qualifier: the last segment. -/
def unqualified (name : String) : String :=
  (segments name).getLast?.getD name

/-- The qualifier: all that stands before the last dot. -/
def schema? (name : String) : Option String :=
  match (segments name).dropLast with
  | [] => none
  | qualifier => some (".".intercalate qualifier)

/-- Whether a name has a qualifier, be it blank. -/
def isQualified (name : String) : Bool :=
  (segments name).length != 1

theorem cut_ne_nil (text : List Char) : cut text ≠ [] := by
  cases text with
  | nil => simp [cut]
  | cons c rest =>
    by_cases dot : c = '.'
    · simp [cut, dot]
    · cases others : cut rest <;> simp [cut, dot, others]

/-- No segment holds a dot. -/
theorem dot_notMem_of_mem_cut {text segment : List Char} (member : segment ∈ cut text) :
    '.' ∉ segment := by
  induction text generalizing segment with
  | nil =>
    have empty : segment = [] := by simpa [cut] using member
    simp [empty]
  | cons c rest ih =>
    by_cases dot : c = '.'
    · simp only [cut, dot, ↓reduceIte, List.mem_cons] at member
      rcases member with rfl | member
      · simp
      · exact ih member
    · cases others : cut rest with
      | nil => exact absurd others (cut_ne_nil rest)
      | cons first tail =>
        simp only [cut, dot, others, ↓reduceIte, List.mem_cons] at member
        have different : ¬ '.' = c := fun same => dot same.symm
        rcases member with rfl | member
        · have free : '.' ∉ first := ih (by simp [others])
          simp [different, free]
        · exact ih (by simp [others, member])

/-- Nothing is lost: the segments joined by dots are the text again. -/
theorem intercalate_cut (text : List Char) : ['.'].intercalate (cut text) = text := by
  induction text with
  | nil => simp [cut, List.intercalate]
  | cons c rest ih =>
    cases others : cut rest with
    | nil => exact absurd others (cut_ne_nil rest)
    | cons first tail =>
      rw [others] at ih
      by_cases dot : c = '.'
      · simp only [cut, dot, ↓reduceIte, others]
        simp only [List.intercalate, List.intersperse] at ih ⊢
        simpa using ih
      · simp only [cut, dot, ↓reduceIte, others]
        cases tail with
        | nil => simpa [List.intercalate, List.intersperse] using ih
        | cons second tail => simpa [List.intercalate, List.intersperse] using ih

/-! ## Cutting at a given dot -/

/-- A text without dots is one segment. -/
theorem cut_of_notMem {text : List Char} (free : '.' ∉ text) : cut text = [text] := by
  induction text with
  | nil => rfl
  | cons c rest ih =>
    obtain ⟨different, free⟩ := not_or.mp (mt List.mem_cons.mpr free)
    rw [cut, if_neg (Ne.symm different), ih free]

/-- A dot between two texts keeps their segments apart. -/
theorem cut_append_dot (first second : List Char) :
    cut (first ++ '.' :: second) = cut first ++ cut second := by
  induction first with
  | nil => rfl
  | cons c rest ih =>
    rw [List.cons_append, cut, cut, ih]
    by_cases dot : c = '.'
    · rw [if_pos dot, if_pos dot, List.cons_append]
    · rw [if_neg dot, if_neg dot]
      cases segments : cut rest with
      | nil => exact absurd segments (cut_ne_nil rest)
      | cons => rfl

theorem segments_of_notMem {name : String} (free : '.' ∉ name.toList) : segments name = [name] := by
  rw [segments, cut_of_notMem free, List.map_singleton, String.ofList_toList]

theorem segments_append_dot (first second : String) :
    segments (first ++ "." ++ second) = segments first ++ segments second := by
  have parts : (first ++ "." ++ second).toList = first.toList ++ '.' :: second.toList := by simp
  rw [segments, parts, cut_append_dot, List.map_append]
  rfl

theorem intercalate_segments (name : String) : ".".intercalate (segments name) = name := by
  rw [← String.toList_inj, String.toList_intercalate, segments, List.map_map]
  simpa [Function.comp_def] using intercalate_cut name.toList

section
variable {last : String} (free : '.' ∉ last.toList) (qualifier : String)
include free

/-- The qualifier ends at the last dot, whatever dots stand before it. -/
theorem schema?_append_dot : schema? (qualifier ++ "." ++ last) = some qualifier := by
  rw [schema?, segments_append_dot, segments_of_notMem free, List.dropLast_concat]
  have whole := intercalate_segments qualifier
  cases qualified : segments qualifier with
  | nil => exact absurd (List.map_eq_nil_iff.mp qualified) (cut_ne_nil _)
  | cons =>
    rw [qualified] at whole
    exact congrArg some whole

theorem unqualified_append_dot : unqualified (qualifier ++ "." ++ last) = last := by
  rw [unqualified, segments_append_dot, segments_of_notMem free, List.getLast?_concat,
    Option.getD_some]

end

/-! ## Names of one or two segments -/

/-- A name of one segment is that segment. -/
theorem eq_of_segments_eq_singleton {name segment : String} (single : segments name = [segment]) :
    segment = name := by
  obtain ⟨text, alone, rfl⟩ := List.map_eq_singleton_iff.mp single
  have whole := intercalate_cut name.toList
  rw [alone] at whole
  have same : text = name.toList := by simpa [List.intercalate] using whole
  rw [same, String.ofList_toList]

/-- A name without a qualifier is its only segment. -/
theorem segments_of_not_isQualified {name : String} (whole : isQualified name = false) :
    segments name = [name] := by
  have single : (segments name).length = 1 := by simpa [isQualified] using whole
  obtain ⟨segment, alone⟩ := List.length_eq_one_iff.mp single
  rw [alone, eq_of_segments_eq_singleton alone]

section
variable {name : String}

theorem schema?_of_singleton (single : segments name = [name]) : schema? name = none := by
  simp [schema?, single]

theorem unqualified_of_singleton (single : segments name = [name]) : unqualified name = name := by
  simp [unqualified, single]

theorem isQualified_of_singleton (single : segments name = [name]) : isQualified name = false := by
  simp [isQualified, single]

variable {schema last : String}

theorem schema?_of_pair (pair : segments name = [schema, last]) : schema? name = some schema := by
  simp [schema?, pair]

theorem unqualified_of_pair (pair : segments name = [schema, last]) : unqualified name = last := by
  simp [unqualified, pair]

theorem isQualified_of_pair (pair : segments name = [schema, last]) : isQualified name = true := by
  simp [isQualified, pair]

end

end TablePlan.Name

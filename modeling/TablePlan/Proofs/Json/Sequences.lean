import TablePlan.Proofs.Json.ReadBack

/-!
# Reading back lists and records

Elements of an array and members of an object stand in a row, set apart by commas, so both are read
back part by part.  A record reads back because each of its members is found by its name while the
ones before it are known and the ones behind it are not.  Main statements: a list reads back when its
elements do (`faithful_list`), and a record when its fields do (`faithful_record`).
-/

namespace TablePlan.Json

/-! ## Parts in a row -/

/-- What separates a part from the one before it, if there is one. -/
def separator (first : Bool) : List Char :=
  if first then [] else [',']

/-- Parts in a row, the first of them behind others or not. -/
def sequel (first : Bool) : List (List Char) → List Char
  | [] => []
  | part :: rest => separator first ++ part ++ sequel false rest

theorem commaSeparated_eq_sequel (parts : List (List Char)) :
    commaSeparated parts = sequel true parts := by
  have behind (parts : List (List Char)) (nonempty : parts ≠ []) :
      ',' :: commaSeparated parts = sequel false parts := by
    induction parts with
    | nil => exact absurd rfl nonempty
    | cons part rest ih =>
      cases rest with
      | nil => simp [commaSeparated, sequel, separator]
      | cons next others =>
        rw [sequel, ← ih (List.cons_ne_nil _ _)]
        rfl
  cases parts with
  | nil => rfl
  | cons part rest =>
    cases rest with
    | nil => simp [commaSeparated, sequel, separator]
    | cons next others =>
      rw [sequel, ← behind _ (List.cons_ne_nil _ _)]
      rfl

/-- What follows a part may follow a value. -/
theorem delimited_sequel (parts : List (List Char)) {close : Char}
    (closes : close = ']' ∨ close = '}') (rest : List Char) :
    Delimited (sequel false parts ++ close :: rest) := by
  cases parts with
  | nil => exact .cons (.inr closes) rest
  | cons part others => exact .cons (.inl rfl) _

/-- A row has at least one character for each of its parts, so its length is fuel enough. -/
theorem length_lt_sequel {parts : List (List Char)} (nonempty : ∀ part ∈ parts, part ≠ [])
    (rest : List Char) : parts.length < (sequel true parts ++ rest).length + 1 := by
  have shorter (first : Bool) : parts.length ≤ (sequel first parts).length := by
    induction parts generalizing first with
    | nil => exact Nat.le_refl _
    | cons part parts ih =>
      obtain ⟨some, others⟩ := List.forall_mem_cons.mp nonempty
      have one : 0 < part.length := List.length_pos_iff.mpr some
      have more := ih others false
      simp only [sequel, List.length_cons, List.length_append]
      omega
  have whole := shorter true
  rw [List.length_append]
  omega

/-! ## Lists -/

section
variable {α : Type} {codec : Codec α}

theorem nextElement?_separator (first : Bool) {written : List Char} (opens : Opens written)
    (rest : List Char) :
    nextElement? first (separator first ++ written ++ rest) = .ok (some (written ++ rest)) := by
  obtain ⟨c, tail, rfl, noSpace, _, noEnd⟩ := opens
  have comma : isSpace ',' = false := by decide
  cases first with
  | true => simp [nextElement?, separator, skipSpace_cons noSpace]
  | false => simp [nextElement?, separator, skipSpace_cons comma, skipSpace_cons noSpace, noEnd]

theorem readElements_sequel {values : List α}
    (inner : ∀ value ∈ values, codec.Faithful value) (first : Bool)
    (rest : List Char) {fuel : Nat} (enough : values.length < fuel) :
    readElements codec.read fuel first (sequel first (values.map codec.write) ++ ']' :: rest) =
      .ok (values, rest) := by
  induction values generalizing first fuel with
  | nil =>
    obtain ⟨n, rfl⟩ := Nat.exists_eq_add_of_lt enough
    cases first <;> rfl
  | cons value values ih =>
    obtain ⟨n, rfl⟩ : ∃ n, fuel = n + 1 := ⟨fuel - 1, by omega⟩
    obtain ⟨⟨readsBack, opens⟩, others⟩ := List.forall_mem_cons.mp inner
    have next := ih others false (Nat.lt_of_succ_lt_succ enough)
    have read := readsBack _ (delimited_sequel (values.map codec.write) (.inl rfl) rest)
    simp only [List.map_cons, sequel, List.append_assoc, readElements]
    rw [← List.append_assoc, nextElement?_separator first opens]
    simp [read, next, bind, Except.bind, pure, Except.pure]

/-- A list reads back, if its elements do. -/
theorem faithful_list {values : List α} (inner : ∀ value ∈ values, codec.Faithful value) :
    codec.list.Faithful values := by
  have bracket : isSpace '[' = false := by decide
  refine ⟨fun rest _ => ?_, .of_cons _ bracket (by decide) (by decide)⟩
  have nonempty : ∀ part ∈ values.map codec.write, part ≠ [] := by
    intro part listed
    obtain ⟨value, member, rfl⟩ := List.mem_map.mp listed
    obtain ⟨c, tail, written, _⟩ := (inner value member).opens
    rw [written]
    exact List.cons_ne_nil _ _
  have enough := length_lt_sequel nonempty (']' :: rest)
  rw [List.length_map] at enough
  have written : codec.list.write values ++ rest =
      '[' :: (sequel true (values.map codec.write) ++ ']' :: rest) := by
    simp [Codec.list, commaSeparated_eq_sequel]
  rw [written]
  simp only [Codec.list, skipSpace_cons bracket]
  exact readElements_sequel inner true rest enough

/-- A pair reads back, if its parts do. -/
theorem faithful_pair {β : Type} {other : Codec β} {value : α × β}
    (first : codec.Faithful value.1) (second : other.Faithful value.2) :
    (pair codec other).Faithful value := by
  have bracket : isSpace '[' = false := by decide
  refine ⟨fun rest _ => ?_, .of_cons _ bracket (by decide) (by decide)⟩
  have close : closeArray (']' :: rest) = .ok rest := rfl
  have nextFirst : nextElement? true (codec.write value.1 ++ ',' :: (other.write value.2 ++
      ']' :: rest)) = .ok (some _) := nextElement?_separator true first.opens _
  have nextSecond : nextElement? false (',' :: (other.write value.2 ++ ']' :: rest)) =
      .ok (some _) := nextElement?_separator false second.opens _
  have readFirst := first.readsBack (',' :: (other.write value.2 ++ ']' :: rest))
    (.cons (.inl rfl) _)
  have readSecond := second.readsBack (']' :: rest) (.cons (.inr (.inl rfl)) _)
  have written : (pair codec other).write value ++ rest =
      '[' :: (codec.write value.1 ++ ',' :: (other.write value.2 ++ ']' :: rest)) := by
    simp [pair]
  rw [written]
  simp only [pair, skipSpace_cons bracket]
  simp [Fields.readInOrder, nextFirst, readFirst, nextSecond, readSecond, close, bind, Except.bind,
    pure, Except.pure]

end

/-! ## Records -/

/-- The names of the fields. -/
def Fields.names : {types : List Type} → Fields types → List String
  | _, .nil => []
  | _, .cons field rest => field.name :: rest.names

/-- Each field reads its value back. -/
def Fields.ReadsBack : {types : List Type} → Fields types → Values types → Prop
  | _, .nil, _ => True
  | _, .cons field rest, (value, values) => field.codec.ReadsBack value ∧ rest.ReadsBack values

/-- The members of an object with some values: each name with what is written for its value. -/
def Fields.members : {types : List Type} → Fields types → Values types → List (String × List Char)
  | _, .nil, _ => []
  | _, .cons field rest, (value, values) =>
    (field.name, field.codec.write value) :: rest.members values

/-- A member of an object. -/
def memberText (member : String × List Char) : List Char :=
  writeText member.1.toList ++ ':' :: member.2

/-- All fields are known. -/
def allKnown : {types : List Type} → Values types → Slots types
  | [], _ => ()
  | _ :: _, (value, values) => (some value, allKnown values)

/-- Members are read one after the other, each by its name, and what is known of the fields grows. -/
inductive Takes {slots : Type} (member : String → slots → Member slots) :
    List (String × List Char) → slots → slots → Prop
  | nil (known : slots) : Takes member [] known known
  | cons {name : String} {content : List Char} {others : List (String × List Char)}
      {read : Reader slots} {known next last : slots} (found : member name known = .value read)
      (reads : ∀ rest, Delimited rest → read (content ++ rest) = .ok (next, rest))
      (taken : Takes member others next last) : Takes member ((name, content) :: others) known last

section
variable {types : List Type}

theorem write_eq_members (fields : Fields types) (values : Values types) :
    fields.write values = (fields.members values).map memberText := by
  induction fields with
  | nil => rfl
  | cons field rest ih =>
    obtain ⟨value, values⟩ := values
    rw [Fields.write, ih]
    rfl

theorem names_members (fields : Fields types) (values : Values types) :
    (fields.members values).map Prod.fst = fields.names := by
  induction fields with
  | nil => rfl
  | cons field rest ih =>
    obtain ⟨value, values⟩ := values
    rw [Fields.members, List.map_cons, ih]
    rfl

theorem complete_allKnown (fields : Fields types) (values : Values types) :
    fields.complete (allKnown values) = .ok values := by
  induction fields with
  | nil => rfl
  | cons field rest ih =>
    obtain ⟨value, values⟩ := values
    simp [allKnown, Fields.complete, ih, bind, Except.bind, pure, Except.pure]

/-- Behind a field of another name the members are read as without that field. -/
theorem Takes.behind {α : Type} (field : Field α) {rest : Fields types} (slot : Option α)
    {members : List (String × List Char)} {known last : Slots types}
    (taken : Takes (fun name => rest.member name) members known last)
    (apart : field.name ∉ members.map Prod.fst) :
    Takes (fun name => (Fields.cons field rest).member name) members (slot, known)
      (slot, last) := by
  -- Each member goes past the field, and what is known of the field stays.
  induction taken with
  | nil => exact .nil _
  | @cons name content others read known next last found reads taken ih =>
    rw [List.map_cons, List.mem_cons, not_or] at apart
    have later : (Fields.cons field rest).member name (slot, known) = .value fun s =>
        read s >>= fun answer => .ok ((slot, answer.1), answer.2) := by
      simp only [Fields.member, if_neg apart.1, found]
      rfl
    refine .cons later ?_ (ih apart.2)
    intro rest delimited
    rw [reads rest delimited]
    rfl

/-- The members of a record are read from its first field on. -/
theorem takes_members {fields : Fields types} (distinct : fields.names.Nodup) {values : Values types}
    (inner : fields.ReadsBack values) :
    Takes (fun name => fields.member name) (fields.members values) fields.empty
      (allKnown values) := by
  -- The first member fills the first field; the others run as they do without it.
  induction fields with
  | nil => exact .nil _
  | cons field rest ih =>
    obtain ⟨value, values⟩ := values
    obtain ⟨readsBack, others⟩ := inner
    rw [Fields.names, List.nodup_cons] at distinct
    have apart : field.name ∉ (rest.members values).map Prod.fst := by
      rw [names_members]
      exact distinct.1
    have first : (Fields.cons field rest).member field.name (none, rest.empty) = .value fun s =>
        field.codec.read s >>= fun answer => .ok ((some answer.1, rest.empty), answer.2) := by
      simp only [Fields.member, if_true]
      rfl
    refine .cons first ?_ ((ih distinct.2 others).behind field (some value) apart)
    intro rest delimited
    rw [readsBack rest delimited]
    rfl

theorem nextName?_separator (first : Bool) (name : String) (rest : List Char) :
    nextName? first (separator first ++ writeText name.toList ++ rest) = .ok (some (name, rest)) := by
  have comma : isSpace ',' = false := by decide
  have quote : isSpace '"' = false := by decide
  have written : writeText name.toList ++ rest =
      '"' :: (name.toList.flatMap escapeChar ++ '"' :: rest) := by
    simp [writeText]
  rw [List.append_assoc, written]
  cases first with
  | true =>
    simp [nextName?, separator, readName, skipSpace_cons quote, readTextInside_flatMap_escapeChar,
      bind, Except.bind, pure, Except.pure]
  | false =>
    simp [nextName?, separator, readName, skipSpace_cons comma, skipSpace_cons quote,
      readTextInside_flatMap_escapeChar, bind, Except.bind, pure, Except.pure]

/-- The members of an object are read up to its end. -/
theorem readMembers_sequel {fields : Fields types} {members : List (String × List Char)}
    {known last : Slots types}
    (taken : Takes (fun name => fields.member name) members known last) (first : Bool)
    (rest : List Char) {fuel : Nat} (enough : members.length < fuel) :
    readMembers fields fuel first known (sequel first (members.map memberText) ++ '}' :: rest) =
      .ok (last, rest) := by
  induction taken generalizing first fuel with
  | nil known =>
    obtain ⟨n, rfl⟩ := Nat.exists_eq_add_of_lt enough
    cases first <;> rfl
  | @cons name content others read known next last found reads taken ih =>
    obtain ⟨n, rfl⟩ : ∃ n, fuel = n + 1 := ⟨fuel - 1, by omega⟩
    have following := ih false (Nat.lt_of_succ_lt_succ enough)
    have readContent := reads _ (delimited_sequel (others.map memberText) (.inr rfl) rest)
    have colon (rest : List Char) : readColon (':' :: rest) = .ok rest := rfl
    have nextName := nextName?_separator first name
      (':' :: (content ++ (sequel false (others.map memberText) ++ '}' :: rest)))
    simp only [List.map_cons, sequel, memberText, List.append_assoc, List.cons_append, readMembers]
    rw [← List.append_assoc, nextName]
    simp [found, colon, readContent, following, bind, Except.bind]

/-- A record reads back, if its fields do and have different names. -/
theorem faithful_record {fields : Fields types} (distinct : fields.names.Nodup)
    {values : Values types} (inner : fields.ReadsBack values) : (record fields).Faithful values := by
  have brace : isSpace '{' = false := by decide
  refine ⟨fun rest _ => ?_, .of_cons _ brace (by decide) (by decide)⟩
  have nonempty : ∀ part ∈ (fields.members values).map memberText, part ≠ [] := by
    intro part listed
    obtain ⟨member, _, rfl⟩ := List.mem_map.mp listed
    exact List.cons_ne_nil _ _
  have enough := length_lt_sequel nonempty ('}' :: rest)
  rw [List.length_map] at enough
  have read := readMembers_sequel (takes_members distinct inner) true rest enough
  have written : (record fields).write values ++ rest =
      '{' :: (sequel true ((fields.members values).map memberText) ++ '}' :: rest) := by
    simp [record, commaSeparated_eq_sequel, write_eq_members]
  rw [written]
  simp only [record, skipSpace_cons brace, read]
  simp [complete_allKnown, bind, Except.bind, pure, Except.pure]

end

end TablePlan.Json

import TablePlan.Compile
import TablePlan.Compile.Existence
import TablePlan.Proofs.Scan

/-!
# Literals under backslash escapes

In its default mode mysql reads a backslash inside a string literal as the beginning of an escape
sequence, so doubling the quotes is not all that a literal needs there.  Main statements: a written
literal reads back as its text, with nothing of what follows taken, exactly when every backslash of
the text stands directly before `%` or `_`, where mysql keeps it (`readEscaped?_enclose_iff`), and
so it is with every literal of every statement and query (`mysql_literals_read_iff`).
-/

namespace TablePlan.Sql

open Text (Quoted.enclose Quoted.double)

/-! ## Reading a literal -/

/-- What a backslash and the character after it stand for. -/
def escapeValue : Char → List Char
  | '0' => ['\x00']
  | 'b' => ['\x08']
  | 'n' => ['\n']
  | 'r' => ['\r']
  | 't' => ['\t']
  | 'Z' => ['\x1a']
  | '%' => ['\\', '%']
  | '_' => ['\\', '_']
  | c => [c]

/-- Reads the inside of a literal up to the first quote that stands neither after a backslash nor
before another quote. -/
def readEscapedInside : List Char → Option (List Char × List Char)
  | [] => none
  | [c] => if c = '\'' then some ([], []) else none
  | c :: d :: rest =>
    if c = '\\' then
      (readEscapedInside rest).map fun found => (escapeValue d ++ found.1, found.2)
    else if c = '\'' then
      if d = '\'' then (readEscapedInside rest).map fun found => ('\'' :: found.1, found.2)
      else some ([], d :: rest)
    else (readEscapedInside (d :: rest)).map fun found => (c :: found.1, found.2)

/-- Reads one literal from the front; `none` when there is none, or when it is not closed. -/
def readEscaped? : List Char → Option (List Char × List Char)
  | [] => none
  | c :: rest => if c = '\'' then readEscapedInside rest else none

/-- Every backslash stands directly before a percent sign or an underscore. -/
def BackslashesKept : List Char → Prop
  | [] => True
  | c :: rest =>
    (c = '\\' → rest.head? = some '%' ∨ rest.head? = some '_') ∧ BackslashesKept rest

instance decidableBackslashesKept : DecidablePred BackslashesKept
  | [] => inferInstanceAs (Decidable True)
  | c :: rest =>
    have : Decidable (BackslashesKept rest) := decidableBackslashesKept rest
    inferInstanceAs (Decidable
      ((c = '\\' → rest.head? = some '%' ∨ rest.head? = some '_') ∧ BackslashesKept rest))

/-- A character in front of what was read. -/
def prepend (c : Char) (found : List Char × List Char) : List Char × List Char :=
  (c :: found.1, found.2)

theorem map_prepend_eq_some_iff {c d : Char} {found : Option (List Char × List Char)}
    {inside rest : List Char} :
    found.map (prepend c) = some (d :: inside, rest) ↔ c = d ∧ found = some (inside, rest) := by
  rcases found with _ | ⟨first, second⟩ <;> simp [prepend, and_assoc]

theorem readEscapedInside_ordinary {c : Char} (noEscape : c ≠ '\\') (noQuote : c ≠ '\'')
    (text : List Char) : readEscapedInside (c :: text) = (readEscapedInside text).map (prepend c) := by
  cases text with
  | nil => simp [readEscapedInside, noQuote]
  | cons d rest =>
    simp only [readEscapedInside, noEscape, noQuote, ↓reduceIte]
    rfl

theorem readEscapedInside_quotes (text : List Char) :
    readEscapedInside ('\'' :: '\'' :: text) = (readEscapedInside text).map (prepend '\'') := by
  simp only [readEscapedInside, Char.reduceEq, ↓reduceIte]
  rfl

theorem readEscapedInside_escape (d : Char) (text : List Char) :
    readEscapedInside ('\\' :: d :: text) =
      (readEscapedInside text).map fun found => (escapeValue d ++ found.1, found.2) := by
  simp only [readEscapedInside, ↓reduceIte]

/-- A backslash that mysql keeps is read like an ordinary character. -/
theorem readEscapedInside_kept {d : Char} (kept : d = '%' ∨ d = '_') (text : List Char) :
    readEscapedInside ('\\' :: d :: text) =
      (readEscapedInside (d :: text)).map (prepend '\\') := by
  rw [readEscapedInside_escape]
  rcases kept with rfl | rfl
  · rw [readEscapedInside_ordinary (by decide) (by decide), Option.map_map]
    rfl
  · rw [readEscapedInside_ordinary (by decide) (by decide), Option.map_map]
    rfl

/-! ## Kept backslashes are enough -/

theorem double_cons_of_ne {quote c : Char} (different : c ≠ quote) (text : List Char) :
    Quoted.double quote (c :: text) = c :: Quoted.double quote text := by
  simp [Text.Quoted.double, different]

theorem double_cons_quote (quote : Char) (text : List Char) :
    Quoted.double quote (quote :: text) = quote :: quote :: Quoted.double quote text := by
  simp [Text.Quoted.double]

theorem readEscapedInside_double_append {text rest : List Char} (kept : BackslashesKept text)
    (free : rest.head? ≠ some '\'') :
    readEscapedInside (Quoted.double '\'' text ++ '\'' :: rest) = some (text, rest) := by
  induction text with
  | nil =>
    cases rest with
    | nil => rfl
    | cons d rest =>
      have different : d ≠ '\'' := by simpa using free
      simp [Text.Quoted.double, readEscapedInside, different]
  | cons c text ih =>
    by_cases quote : c = '\''
    · subst quote
      rw [double_cons_quote, List.cons_append, List.cons_append, readEscapedInside_quotes, ih kept.2]
      rfl
    · by_cases backslash : c = '\\'
      · subst backslash
        cases text with
        | nil => exact absurd (kept.1 rfl) (by simp)
        | cons d text =>
          have followed : d = '%' ∨ d = '_' := by simpa using kept.1 rfl
          have noQuote : d ≠ '\'' := by rcases followed with rfl | rfl <;> decide
          have read := ih kept.2
          rw [double_cons_of_ne noQuote, List.cons_append] at read
          rw [double_cons_of_ne quote, double_cons_of_ne noQuote, List.cons_append,
            List.cons_append, readEscapedInside_kept followed, read]
          rfl
      · rw [double_cons_of_ne quote, List.cons_append, readEscapedInside_ordinary backslash quote,
          ih kept.2]
        rfl

/-! ## Kept backslashes are needed -/

theorem double_append (quote : Char) (first second : List Char) :
    Quoted.double quote (first ++ second) =
      Quoted.double quote first ++ Quoted.double quote second := by
  induction first with
  | nil => rfl
  | cons c first ih => by_cases same : c = quote <;> simp [Text.Quoted.double, same, ih]

theorem length_double_escapeValue (c : Char) :
    (Quoted.double '\'' (escapeValue c)).length ≤ 2 := by
  unfold escapeValue
  split <;> simp [Text.Quoted.double]
  split <;> simp

/-- What a literal holds is never longer, with its quotes written twice, than what was read. -/
theorem length_double_of_readEscapedInside {text inside rest : List Char}
    (read : readEscapedInside text = some (inside, rest)) :
    (Quoted.double '\'' inside).length + rest.length < text.length := by
  fun_induction readEscapedInside text generalizing inside rest with
  | case1 => cases read
  | case2 =>
    cases read
    simp [Text.Quoted.double]
  | case3 => cases read
  | case4 d text ih =>
    obtain ⟨⟨found, after⟩, inner, same⟩ := Option.map_eq_some_iff.mp read
    cases same
    have shorter := ih inner
    have sequence := length_double_escapeValue d
    simp only [double_append, List.length_append, List.length_cons]
    omega
  | case5 text _ ih =>
    obtain ⟨⟨found, after⟩, inner, same⟩ := Option.map_eq_some_iff.mp read
    cases same
    have shorter := ih inner
    simp only [double_cons_quote, List.length_cons]
    omega
  | case6 d text =>
    cases read
    simp [Text.Quoted.double]
  | case7 c d text noEscape noQuote ih =>
    obtain ⟨⟨found, after⟩, inner, same⟩ := Option.map_eq_some_iff.mp read
    cases same
    have shorter := ih inner
    simp only [double_cons_of_ne noQuote, List.length_cons] at shorter ⊢
    omega

/-- No other escape sequence stands for a text that begins with a backslash and is longer. -/
theorem escapeValue_spec {c : Char} (other : ¬ (c = '%' ∨ c = '_')) :
    ∃ d, escapeValue c = [d] ∧ (d = '\\' → c = '\\') := by
  unfold escapeValue
  split
  · exact ⟨_, rfl, by decide⟩
  · exact ⟨_, rfl, by decide⟩
  · exact ⟨_, rfl, by decide⟩
  · exact ⟨_, rfl, by decide⟩
  · exact ⟨_, rfl, by decide⟩
  · exact ⟨_, rfl, by decide⟩
  · exact absurd (.inl rfl) other
  · exact absurd (.inr rfl) other
  · exact ⟨_, rfl, id⟩

/-- A backslash that reads as itself stands before a percent sign or an underscore. -/
theorem head_of_read_backslash {text rest : List Char}
    (read : readEscapedInside ('\\' :: (Quoted.double '\'' text ++ '\'' :: rest)) =
      some ('\\' :: text, rest)) :
    text.head? = some '%' ∨ text.head? = some '_' := by
  cases text with
  | nil =>
    rw [Quoted.double, List.nil_append, readEscapedInside_escape] at read
    obtain ⟨found, _, same⟩ := Option.map_eq_some_iff.mp read
    simp [escapeValue] at same
  | cons c text =>
    by_cases kept : c = '%' ∨ c = '_'
    · simpa using kept
    obtain ⟨value, stands, only⟩ := escapeValue_spec kept
    by_cases quote : c = '\''
    · subst quote
      rw [double_cons_quote, List.cons_append, readEscapedInside_escape] at read
      obtain ⟨found, _, same⟩ := Option.map_eq_some_iff.mp read
      simp [escapeValue] at same
    · rw [double_cons_of_ne quote, List.cons_append, readEscapedInside_escape, stands] at read
      obtain ⟨⟨inside, after⟩, found, same⟩ := Option.map_eq_some_iff.mp read
      simp only [List.singleton_append, Prod.mk.injEq, List.cons.injEq] at same
      obtain ⟨⟨first, others⟩, rest⟩ := same
      -- Two backslashes stand for one, so what was read would have to be longer than what was written.
      have backslash := only first
      subst backslash others rest
      have shorter := length_double_of_readEscapedInside found
      rw [double_cons_of_ne quote] at shorter
      simp only [List.length_cons, List.length_append] at shorter
      omega

theorem backslashesKept_of_readEscapedInside {text rest : List Char}
    (read : readEscapedInside (Quoted.double '\'' text ++ '\'' :: rest) = some (text, rest)) :
    BackslashesKept text := by
  induction text with
  | nil => trivial
  | cons c text ih =>
    by_cases quote : c = '\''
    · subst quote
      rw [double_cons_quote, List.cons_append, List.cons_append, readEscapedInside_quotes,
        map_prepend_eq_some_iff] at read
      exact ⟨fun backslash => absurd backslash (by decide), ih read.2⟩
    · rw [double_cons_of_ne quote, List.cons_append] at read
      by_cases backslash : c = '\\'
      · subst backslash
        have followed := head_of_read_backslash read
        refine ⟨fun _ => followed, ih ?_⟩
        cases text with
        | nil => simp at followed
        | cons d text =>
          have kept : d = '%' ∨ d = '_' := by simpa using followed
          have noQuote : d ≠ '\'' := by rcases kept with rfl | rfl <;> decide
          rw [double_cons_of_ne noQuote, List.cons_append, readEscapedInside_kept kept,
            map_prepend_eq_some_iff] at read
          rw [double_cons_of_ne noQuote, List.cons_append]
          exact read.2
      · rw [readEscapedInside_ordinary backslash quote, map_prepend_eq_some_iff] at read
        exact ⟨fun same => absurd same backslash, ih read.2⟩

/-- A written literal reads back as its text exactly when its backslashes are kept. -/
theorem readEscaped?_enclose_iff {text rest : List Char} (free : rest.head? ≠ some '\'') :
    readEscaped? (Quoted.enclose '\'' text ++ rest) = some (text, rest) ↔ BackslashesKept text := by
  have opened : readEscaped? (Quoted.enclose '\'' text ++ rest) =
      readEscapedInside (Quoted.double '\'' text ++ '\'' :: rest) := by
    simp [Text.Quoted.enclose, readEscaped?]
  rw [opened]
  constructor
  · exact backslashesKept_of_readEscapedInside
  · intro kept
    exact readEscapedInside_double_append kept free

/-! ## Literals at their places -/

theorem Fragment.opensBare_of_isSpaced {before after : Fragment} {text : String}
    (spaced : IsSpaced (before ++ .literal text :: after)) : OpensBare after := by
  induction before with
  | nil => exact spaced.1
  | cons piece before ih =>
    cases piece with
    | bare | verbatim => exact ih spaced
    | name | literal => exact ih spaced.2

/-- Each literal of the text that stands in a fragment, read at its place, gives the text and leaves
what follows exactly when the backslashes are kept. -/
def LiteralsReadIffKept (text : String) (fragment : Fragment) : Prop :=
  ∀ before after : Fragment, fragment = before ++ .literal text :: after →
    (readEscaped? ((fragment.text .mysql).toList.drop
        (before.chars Dialect.mysql.nameQuote).length) =
      some (text.toList, after.chars Dialect.mysql.nameQuote) ↔ BackslashesKept text.toList)

theorem literalsReadIffKept_of_isSpaced (text : String) {fragment : Fragment}
    (spaced : fragment.IsSpaced) : LiteralsReadIffKept text fragment := by
  rintro before after rfl
  have free : (after.chars Dialect.mysql.nameQuote).head? ≠ some '\'' := by
    intro first
    have plain := Fragment.isPlainChar_of_opensBare (Fragment.opensBare_of_isSpaced spaced) first
    exact absurd plain (by decide)
  have place : ((Fragment.text .mysql (before ++ .literal text :: after)).toList.drop
      (before.chars Dialect.mysql.nameQuote).length) =
        Quoted.enclose '\'' text.toList ++ after.chars Dialect.mysql.nameQuote := by
    rw [Fragment.text, String.toList_ofList, Fragment.chars_append, List.drop_left,
      Fragment.chars_cons]
    rfl
  rw [place]
  exact readEscaped?_enclose_iff free

/-- In mysql a literal denotes its text, and leaves alone what follows it, exactly when every
backslash of the text stands before a percent sign or an underscore.  That is so of a literal by
itself, of the literals of every statement that a plan compiles to, and of those in the queries for
what exists. -/
theorem mysql_literals_read_iff (text : String) :
    (∀ rest : List Char, rest.head? ≠ some '\'' →
      (readEscaped? (Quoted.enclose '\'' text.toList ++ rest) = some (text.toList, rest) ↔
        BackslashesKept text.toList)) ∧
    (∀ (plan : Plan) (statements : List Statement), plan.statements .mysql = .ok statements →
      ∀ statement ∈ statements, LiteralsReadIffKept text statement.fragment) ∧
    (∀ table, LiteralsReadIffKept text (Compile.tableQuery .mysql table).fragment) ∧
    ∀ table column,
      LiteralsReadIffKept text (Compile.columnQuery .mysql table column).fragment := by
  refine ⟨?_, ?_, ?_, ?_⟩
  · intro rest free
    exact readEscaped?_enclose_iff free
  · intro plan statements _ statement _
    exact literalsReadIffKept_of_isSpaced text (Statement.isSpaced_fragment statement)
  · intro table
    exact literalsReadIffKept_of_isSpaced text
      (Query.isSpaced_fragment (by simp [Compile.tableQuery]))
  · intro table column
    exact literalsReadIffKept_of_isSpaced text
      (Query.isSpaced_fragment (by simp [Compile.columnQuery]))

theorem mysql_literals_read_iff_percent :
    readEscaped? (Quoted.enclose '\'' "5\\%".toList ++ [')']) = some ("5\\%".toList, [')']) :=
  ((mysql_literals_read_iff "5\\%").1 [')'] (by decide)).mpr (by decide)

/-- A lone backslash takes the closing quote along: the literal does not end, neither by itself nor
in the creation of a table. -/
theorem readEscaped?_lone_backslash :
    let plan : Plan :=
      { table := "t"
        columns := [{ name := "a", type := .text, comment := some "\\" }]
        requested := [.create] }
    readEscaped? (Quoted.enclose '\'' ['\\']) ≠ some (['\\'], []) ∧
      plan.toSql .mysql = .ok ["CREATE TABLE `t` (`a` TEXT NOT NULL COMMENT '\\')"] ∧
      readEscaped? "'\\')".toList = none := by
  exact ⟨by decide, rfl, by decide⟩

end TablePlan.Sql

import TablePlan.Sql.Rendering

/-!
# Scanning written statements

SQL text is read from the left.  A quote opens a quoted token, which ends at the first quote that is
not written twice; what stands between the tokens is bare.  Main statements: the text of a fragment
scans into the tokens of its pieces as long as its bare text is plain and its quoted pieces do not
touch (`scan?_chars`), and in no statement do quoted pieces touch (`Statement.isSpaced_fragment`).
-/

namespace TablePlan.Sql

open Text (Quoted.enclose Quoted.readInside Quoted.double)

/-! ## Tokens -/

/-- What a scan finds: a character outside quotes, or a quoted token with its text. -/
inductive Token where
  | bare (c : Char)
  | quoted (quote : Char) (text : List Char)
  deriving DecidableEq, Repr

theorem length_lt_of_readInside {quote : Char} {text inside rest : List Char}
    (read : Quoted.readInside quote text = some (inside, rest)) : rest.length < text.length := by
  fun_induction Quoted.readInside quote text generalizing inside rest with
  | case1 => simp at read
  | case2 => simp_all
  | case3 => simp at read
  | case4 rest' ih =>
    obtain ⟨⟨found, after⟩, read, same⟩ := Option.map_eq_some_iff.mp read
    have shorter := ih read
    simp only [Prod.mk.injEq] at same
    simp only [List.length_cons, ← same.2]
    omega
  | case5 => simp_all
  | case6 c d rest' different ih =>
    obtain ⟨⟨found, after⟩, read, same⟩ := Option.map_eq_some_iff.mp read
    have shorter := ih read
    simp only [Prod.mk.injEq] at same
    simp only [List.length_cons, ← same.2] at shorter ⊢
    omega

/-- Scans a text from outside quotes; `none` when it ends inside quotes. -/
def scan? (nameQuote : Char) (text : List Char) : Option (List Token) :=
  match text with
  | [] => some []
  | c :: rest =>
    if c = '\'' ∨ c = nameQuote then
      match _found : Quoted.readInside c rest with
      | none => none
      | some (inside, after) => (scan? nameQuote after).map (.quoted c inside :: ·)
    else (scan? nameQuote rest).map (.bare c :: ·)
termination_by text.length
decreasing_by
  · have := length_lt_of_readInside _found
    simp only [List.length_cons]
    omega
  · simp

theorem scan?_cons_bare {nameQuote c : Char} (outside : ¬ (c = '\'' ∨ c = nameQuote))
    (rest : List Char) : scan? nameQuote (c :: rest) = (scan? nameQuote rest).map (.bare c :: ·) := by
  rw [scan?]
  simp [outside]

/-- A written token is found as it was written when what follows does not begin with its quote. -/
theorem scan?_enclose_append {nameQuote quote : Char} (opens : quote = '\'' ∨ quote = nameQuote)
    (text : List Char) {rest : List Char} (free : rest.head? ≠ some quote) :
    scan? nameQuote (Quoted.enclose quote text ++ rest) =
      (scan? nameQuote rest).map (.quoted quote text :: ·) := by
  have read : Quoted.readInside quote (Quoted.double quote text ++ quote :: rest) =
      some (text, rest) := Text.Quoted.readInside_double_append quote text rest free
  rw [Quoted.enclose, List.cons_append, List.append_assoc, List.singleton_append, scan?]
  simp only [opens, ↓reduceIte]
  split
  · next none => simp [read] at none
  · next inside after found =>
    rw [read] at found
    cases found
    rfl

/-! ## Plain text -/

/-- The characters of keywords, punctuation and numbers. -/
def isPlainChar (c : Char) : Bool :=
  c.isAlphanum || c ∈ [' ', '_', '(', ')', ',', '.', '=', '|', '-']

/-- Whether a text is plain, each `-` standing directly before a letter or a digit. -/
def isPlainText : List Char → Bool
  | [] => true
  | c :: rest => isPlainChar c && (c != '-' || rest.head?.any Char.isAlphanum) && isPlainText rest

theorem not_quote_of_isPlainChar {dialect : Dialect} {c : Char} (plain : isPlainChar c = true) :
    ¬ (c = '\'' ∨ c = dialect.nameQuote) := by
  rintro (rfl | rfl)
  · revert plain
    decide
  · revert plain
    cases dialect <;> decide

theorem isPlainText_of_forall {text : List Char}
    (plain : ∀ c ∈ text, isPlainChar c = true ∧ c ≠ '-') : isPlainText text = true := by
  induction text with
  | nil => rfl
  | cons c rest ih =>
    obtain ⟨⟨first, noDash⟩, others⟩ := List.forall_mem_cons.mp plain
    simp [isPlainText, first, noDash, ih others]

theorem isPlainChar_of_mem {text : List Char} (plain : isPlainText text = true) {c : Char}
    (member : c ∈ text) : isPlainChar c = true := by
  induction text with
  | nil => simp at member
  | cons d rest ih =>
    simp only [isPlainText, Bool.and_eq_true] at plain
    rcases List.mem_cons.mp member with rfl | member
    · exact plain.1.1
    · exact ih plain.2 member

/-! ## Fragments whose tokens stand apart -/

/-- The tokens that a piece is meant to be read as. -/
def Piece.tokens (nameQuote : Char) : Piece → List Token
  | .bare text | .verbatim text => text.toList.map .bare
  | .name text => [.quoted nameQuote text.toList]
  | .literal text => [.quoted '\'' text.toList]

/-- Whether a piece is plain text or stands in quotes. -/
def Piece.IsPlain : Piece → Prop
  | .bare text => isPlainText text.toList = true
  | .verbatim _ => False
  | .name _ | .literal _ => True

namespace Fragment

/-- The tokens that a fragment is meant to be read as. -/
def tokens (nameQuote : Char) (fragment : Fragment) : List Token :=
  fragment.flatMap (Piece.tokens nameQuote)

/-- No piece is text of the caller's as it stands, and all bare text is plain. -/
def IsPlain (fragment : Fragment) : Prop :=
  ∀ piece ∈ fragment, piece.IsPlain

/-- Whether the text of a fragment, if it has any, begins with a plain character of bare text. -/
def OpensBare : Fragment → Prop
  | [] => True
  | .bare text :: rest => text.toList.head?.all isPlainChar ∧ (text = "" → OpensBare rest)
  | _ :: _ => False

/-- What follows a quoted piece, if anything, is bare text. -/
def IsSpaced : Fragment → Prop
  | [] => True
  | .bare _ :: rest => IsSpaced rest
  | .verbatim _ :: rest => IsSpaced rest
  | .name _ :: rest => OpensBare rest ∧ IsSpaced rest
  | .literal _ :: rest => OpensBare rest ∧ IsSpaced rest

theorem isPlainChar_of_opensBare {nameQuote : Char} {fragment : Fragment}
    (opens : fragment.OpensBare) {c : Char} (first : (fragment.chars nameQuote).head? = some c) :
    isPlainChar c = true := by
  induction fragment with
  | nil => simp at first
  | cons piece rest ih =>
    cases piece with
    | bare text =>
      rw [chars_cons, Piece.chars] at first
      cases split : text.toList with
      | nil =>
        have empty : text = "" := by rw [← String.toList_eq_nil_iff, split]
        rw [split, List.nil_append] at first
        exact ih (opens.2 empty) first
      | cons d tail =>
        have plain := opens.1
        rw [split, List.head?_cons, Option.all_some] at plain
        rw [split, List.cons_append, List.head?_cons, Option.some.injEq] at first
        rwa [first] at plain
    | verbatim | name | literal => exact opens.elim

/-- A fragment scans into the tokens of its pieces. -/
theorem scan?_chars {dialect : Dialect} {fragment : Fragment} (plain : fragment.IsPlain)
    (spaced : fragment.IsSpaced) :
    scan? dialect.nameQuote (fragment.chars dialect.nameQuote) =
      some (fragment.tokens dialect.nameQuote) := by
  have bare (text rest : List Char) (plain : ∀ c ∈ text, isPlainChar c = true) :
      scan? dialect.nameQuote (text ++ rest) =
        (scan? dialect.nameQuote rest).map (text.map .bare ++ ·) := by
    induction text with
    | nil => simp
    | cons c text ih =>
      obtain ⟨first, others⟩ := List.forall_mem_cons.mp plain
      rw [List.cons_append, scan?_cons_bare (not_quote_of_isPlainChar first), ih others]
      cases scan? dialect.nameQuote rest <;> rfl
  induction fragment with
  | nil => rw [chars_nil, scan?]; rfl
  | cons piece rest ih =>
    obtain ⟨here, others⟩ := List.forall_mem_cons.mp plain
    rw [chars_cons]
    have quoted (quote : Char) (text : String)
        (opens : quote = '\'' ∨ quote = dialect.nameQuote) (bareNext : OpensBare rest)
        (spaced : IsSpaced rest) :
        scan? dialect.nameQuote
            (Quoted.enclose quote text.toList ++ chars dialect.nameQuote rest) =
          some (.quoted quote text.toList :: tokens dialect.nameQuote rest) := by
      have free : (chars dialect.nameQuote rest).head? ≠ some quote := by
        intro first
        exact not_quote_of_isPlainChar (isPlainChar_of_opensBare bareNext first) opens
      rw [scan?_enclose_append opens _ free, ih others spaced]
      rfl
    cases piece with
    | bare text =>
      rw [Piece.chars, bare _ _ fun c member => isPlainChar_of_mem here member, ih others spaced]
      rfl
    | verbatim => exact here.elim
    | name text => exact quoted _ text (.inr rfl) spaced.1 spaced.2
    | literal text => exact quoted _ text (.inl rfl) spaced.1 spaced.2

/-! ## Laws of plain and spaced fragments -/

@[simp] theorem isPlain_nil : IsPlain [] := by simp [IsPlain]

@[simp] theorem isPlain_cons {piece : Piece} {rest : Fragment} :
    IsPlain (piece :: rest) ↔ piece.IsPlain ∧ IsPlain rest :=
  List.forall_mem_cons

@[simp] theorem isPlain_append {first second : Fragment} :
    IsPlain (first ++ second) ↔ IsPlain first ∧ IsPlain second :=
  List.forall_mem_append

theorem isPlain_flatMap {α : Type} {part : α → Fragment} {list : List α}
    (plain : ∀ a ∈ list, IsPlain (part a)) : IsPlain (list.flatMap part) := by
  intro piece member
  obtain ⟨a, listed, inside⟩ := List.mem_flatMap.mp member
  exact plain a listed piece inside

theorem isPlain_join {separator : String} (plain : isPlainText separator.toList = true)
    {fragments : List Fragment} (each : ∀ fragment ∈ fragments, IsPlain fragment) :
    IsPlain (join separator fragments) := by
  fun_induction join separator fragments with
  | case1 => exact isPlain_nil
  | case2 fragment => exact each fragment List.mem_cons_self
  | case3 fragment rest _ ih =>
    obtain ⟨first, others⟩ := List.forall_mem_cons.mp each
    exact isPlain_append.mpr ⟨first, isPlain_cons.mpr ⟨plain, ih others⟩⟩

theorem isPlain_commas {fragments : List Fragment} (each : ∀ fragment ∈ fragments, IsPlain fragment) :
    IsPlain (commas fragments) :=
  isPlain_join (by decide) each

@[simp] theorem isPlain_parens {fragment : Fragment} : IsPlain (parens fragment) ↔ IsPlain fragment := by
  have opening : (Piece.bare "(").IsPlain := by simp only [Piece.IsPlain]; decide
  have closing : (Piece.bare ")").IsPlain := by simp only [Piece.IsPlain]; decide
  simp [parens, opening, closing]

@[simp] theorem isPlain_names (columns : List String) : IsPlain (names columns) := by
  apply isPlain_commas
  intro fragment member
  obtain ⟨column, _, rfl⟩ := List.mem_map.mp member
  exact isPlain_cons.mpr ⟨trivial, isPlain_nil⟩

@[simp] theorem isPlain_literals (values : List String) : IsPlain (literals values) := by
  apply isPlain_commas
  intro fragment member
  obtain ⟨value, _, rfl⟩ := List.mem_map.mp member
  exact isPlain_cons.mpr ⟨trivial, isPlain_nil⟩

@[simp] theorem opensBare_nil : OpensBare [] := trivial

@[simp] theorem opensBare_bare {text : String} {rest : Fragment} :
    OpensBare (.bare text :: rest) ↔
      text.toList.head?.all isPlainChar ∧ (text = "" → OpensBare rest) :=
  Iff.rfl

theorem opensBare_of_head {text : String} (visible : text.toList.head?.any isPlainChar = true)
    (rest : Fragment) : OpensBare (.bare text :: rest) := by
  cases split : text.toList with
  | nil => simp [split] at visible
  | cons c tail =>
    rw [split] at visible
    refine ⟨by rw [split]; exact visible, ?_⟩
    rintro rfl
    simp at split

theorem opensBare_append {first second : Fragment} (opens : OpensBare second) :
    OpensBare (first ++ second) ↔ OpensBare first := by
  induction first with
  | nil => simpa using opens
  | cons piece rest ih =>
    cases piece with
    | bare text => simp [ih]
    | _ => rfl

@[simp] theorem isSpaced_nil : IsSpaced [] := trivial

@[simp] theorem isSpaced_bare {text : String} {rest : Fragment} :
    IsSpaced (.bare text :: rest) ↔ IsSpaced rest :=
  Iff.rfl

@[simp] theorem isSpaced_verbatim {text : String} {rest : Fragment} :
    IsSpaced (.verbatim text :: rest) ↔ IsSpaced rest :=
  Iff.rfl

@[simp] theorem isSpaced_name {text : String} {rest : Fragment} :
    IsSpaced (.name text :: rest) ↔ OpensBare rest ∧ IsSpaced rest :=
  Iff.rfl

@[simp] theorem isSpaced_literal {text : String} {rest : Fragment} :
    IsSpaced (.literal text :: rest) ↔ OpensBare rest ∧ IsSpaced rest :=
  Iff.rfl

/-- A single piece in front of bare text. -/
theorem isSpaced_cons {piece : Piece} {rest : Fragment} (opens : OpensBare rest) :
    IsSpaced (piece :: rest) ↔ IsSpaced rest := by
  cases piece <;> simp [opens]

theorem isSpaced_append {first second : Fragment} (opens : OpensBare second) :
    IsSpaced (first ++ second) ↔ IsSpaced first ∧ IsSpaced second := by
  induction first with
  | nil => simp
  | cons piece rest ih => cases piece <;> simp [ih, opensBare_append opens, and_assoc]

theorem isSpaced_flatMap {α : Type} {part : α → Fragment} (list : List α)
    (each : ∀ a, OpensBare (part a) ∧ IsSpaced (part a)) :
    OpensBare (list.flatMap part) ∧ IsSpaced (list.flatMap part) := by
  induction list with
  | nil => exact ⟨trivial, trivial⟩
  | cons a rest ih =>
    rw [List.flatMap_cons, opensBare_append ih.1, isSpaced_append ih.1]
    exact ⟨(each a).1, (each a).2, ih.2⟩

theorem isSpaced_join {separator : String}
    (visible : separator.toList.head?.any isPlainChar = true) {fragments : List Fragment}
    (each : ∀ fragment ∈ fragments, IsSpaced fragment) : IsSpaced (join separator fragments) := by
  fun_induction join separator fragments with
  | case1 => exact isSpaced_nil
  | case2 fragment => exact each fragment List.mem_cons_self
  | case3 fragment rest _ ih =>
    obtain ⟨first, others⟩ := List.forall_mem_cons.mp each
    have opens := opensBare_of_head visible (join separator rest)
    exact (isSpaced_append opens).mpr ⟨first, ih others⟩

theorem isSpaced_commas_map {α : Type} {part : α → Fragment} (list : List α)
    (each : ∀ a, IsSpaced (part a)) : IsSpaced (commas (list.map part)) := by
  refine isSpaced_join (by decide) ?_
  intro fragment member
  obtain ⟨a, _, rfl⟩ := List.mem_map.mp member
  exact each a

/-- What follows a parenthesis does not matter. -/
theorem isSpaced_parens_append {fragment rest : Fragment} :
    IsSpaced (parens fragment ++ rest) ↔ IsSpaced fragment ∧ IsSpaced rest := by
  have closing := opensBare_of_head (by decide : ")".toList.head?.any isPlainChar = true) rest
  rw [parens, List.cons_append, List.cons_append, isSpaced_bare, List.append_assoc,
    List.singleton_append, isSpaced_append closing, isSpaced_bare]

@[simp] theorem isSpaced_parens {fragment : Fragment} :
    IsSpaced (parens fragment) ↔ IsSpaced fragment := by
  rw [← List.append_nil (parens fragment), isSpaced_parens_append]
  simp

@[simp] theorem isSpaced_names (columns : List String) : IsSpaced (names columns) :=
  isSpaced_commas_map _ fun _ => ⟨trivial, trivial⟩

@[simp] theorem isSpaced_literals (values : List String) : IsSpaced (literals values) :=
  isSpaced_commas_map _ fun _ => ⟨trivial, trivial⟩

end Fragment

/-! ## No quoted pieces touch in a statement -/

open Fragment (join IsSpaced OpensBare isSpaced_append isSpaced_cons isSpaced_flatMap isSpaced_commas_map
  isSpaced_join opensBare_append)

@[simp] theorem Path.isSpaced_fragment (path : Path) : IsSpaced path.fragment := by
  refine isSpaced_join (by decide) ?_
  intro fragment member
  obtain ⟨segment, _, rfl⟩ := List.mem_map.mp member
  exact ⟨trivial, trivial⟩

@[simp] theorem NativeType.isSpaced_fragment (type : NativeType) : IsSpaced type.fragment := by
  rcases type with ⟨word, _ | arguments, tail⟩
  · exact trivial
  · have listed : IsSpaced (.commas (arguments.map fun argument => [argument.piece])) :=
      isSpaced_commas_map _ fun _ => (isSpaced_cons Fragment.opensBare_nil).mpr trivial
    exact Fragment.isSpaced_parens_append.mpr ⟨listed, trivial⟩

@[simp] theorem Reference.isSpaced_fragment (target : Reference) : IsSpaced target.fragment := by
  rcases target with ⟨table, column, _ | onDelete, _ | onUpdate⟩ <;>
    simp +decide [Reference.fragment, isSpaced_append]

@[simp] theorem isSpaced_oneOfFragment (column : String) (allowed : List String) :
    IsSpaced (oneOfFragment column allowed) := by
  simp +decide [oneOfFragment, isSpaced_append]

@[simp] theorem ColumnClause.isSpaced_fragment (clause : ColumnClause) :
    IsSpaced clause.fragment := by
  cases clause <;> simp +decide [ColumnClause.fragment, isSpaced_cons]

@[simp] theorem ColumnDefinition.isSpaced_fragment (definition : ColumnDefinition) :
    IsSpaced definition.fragment := by
  have spaced (clause : ColumnClause) : OpensBare (.bare " " :: clause.fragment) ∧
      IsSpaced (.bare " " :: clause.fragment) := by simp +decide
  have clauses := isSpaced_flatMap definition.clauses spaced
  unfold ColumnDefinition.fragment
  rw [isSpaced_append clauses.1]
  exact ⟨by simp +decide, clauses.2⟩

@[simp] theorem Constraint.isSpaced_fragment (constraint : Constraint) :
    IsSpaced constraint.fragment := by
  rcases constraint with ⟨_ | name, columns⟩ | ⟨name, column, target⟩ <;>
    simp +decide [Constraint.fragment, foreignKeyFragment]

@[simp] theorem isSpaced_methodFragment (method : Option IndexMethod) :
    IsSpaced (methodFragment method) := by
  cases method <;> simp +decide [methodFragment]

@[simp] theorem opensBare_methodFragment (method : Option IndexMethod) :
    OpensBare (methodFragment method) := by
  cases method <;> simp +decide [methodFragment]

@[simp] theorem TableElement.isSpaced_fragment (element : TableElement) :
    IsSpaced element.fragment := by
  cases element <;> simp +decide [TableElement.fragment, isSpaced_append]

theorem TableOption.isSpaced_fragment (option : TableOption) :
    OpensBare option.fragment ∧ IsSpaced option.fragment := by
  cases option <;> simp +decide [TableOption.fragment]

theorem IndexTarget.isSpaced_fragment (target : IndexTarget) :
    OpensBare target.fragment ∧ IsSpaced target.fragment := by
  cases target with
  | columns before covered after =>
    simp +decide [IndexTarget.fragment, opensBare_append, isSpaced_append]
  | textVectors covered =>
    have vectors : IsSpaced (join " || " (covered.map fun column =>
        [.bare "to_tsvector(", .literal "english", .bare ", ", .name column, .bare ")"])) := by
      refine isSpaced_join (by decide) ?_
      intro fragment member
      obtain ⟨column, _, rfl⟩ := List.mem_map.mp member
      simp +decide
    simp +decide [IndexTarget.fragment, vectors]

@[simp] theorem IndexCreation.isSpaced_fragment (index : IndexCreation) :
    IsSpaced index.fragment := by
  have target := IndexTarget.isSpaced_fragment index.target
  simp +decide [IndexCreation.fragment, ifNotExistsPiece, isSpaced_append target.1, target.2]

@[simp] theorem Alteration.isSpaced_fragment (alteration : Alteration) :
    IsSpaced alteration.fragment := by
  cases alteration with
  | setType column type collation =>
    cases collation <;> simp +decide [Alteration.fragment, isSpaced_append]
  | _ => simp +decide [Alteration.fragment, isSpaced_cons]

/-- In no statement do quoted pieces touch, whatever its names, literals and texts are. -/
theorem Statement.isSpaced_fragment (statement : Statement) : IsSpaced statement.fragment := by
  cases statement with
  | createTable ifNotExists table elements options =>
    have listed := isSpaced_commas_map elements TableElement.isSpaced_fragment
    have stated := isSpaced_flatMap options TableOption.isSpaced_fragment
    simp +decide [Statement.fragment, ifNotExistsPiece, isSpaced_append, stated, listed]
  | alterTable table alterations =>
    have listed := isSpaced_commas_map alterations Alteration.isSpaced_fragment
    simp +decide [Statement.fragment, isSpaced_append, listed]
  | _ => simp +decide [Statement.fragment, isSpaced_append]

/-- The conditions of a query never touch; its source is put together by the caller. -/
theorem Query.isSpaced_fragment {query : Query} (source : IsSpaced query.source) :
    IsSpaced query.fragment := by
  have conditions : IsSpaced (join " AND " (query.conditions.map fun condition =>
      [.bare (condition.1 ++ " = "), condition.2])) := by
    refine isSpaced_join (by decide) ?_
    intro fragment member
    obtain ⟨condition, _, rfl⟩ := List.mem_map.mp member
    exact (isSpaced_cons Fragment.opensBare_nil).mpr trivial
  simp +decide [Query.fragment, isSpaced_append, source, conditions]

end TablePlan.Sql

import TablePlan.Proofs.Scan

/-!
# Plain statements

A statement is plain when none of its parts is text of the caller's as it stands and the words that
its trees carry are plain.  The text of a plain statement scans to its end outside quotes, and what
it shows outside quotes are plain characters, no two dashes side by side
(`Statement.contained_text`).  So no name and no literal leaves its quotes, begins a comment or
ends the statement.
-/

namespace TablePlan.Sql

open Fragment (isPlain_commas isPlain_flatMap isPlain_join)

/-! ## Contained texts -/

/-- A text in which quotes contain what they are meant to: it ends outside quotes, and outside
quotes it shows plain characters only, never two dashes side by side. -/
def Contained (nameQuote : Char) (text : String) : Prop :=
  ∃ tokens, scan? nameQuote text.toList = some tokens ∧
    (∀ c, Token.bare c ∈ tokens → isPlainChar c = true) ∧
    ¬ [Token.bare '-', Token.bare '-'] <:+: tokens

/-- Every dash outside quotes stands directly before a letter or a digit. -/
def DashesLead : List Token → Prop
  | [] => True
  | token :: rest =>
    (token = .bare '-' → ∃ c, rest.head? = some (.bare c) ∧ c.isAlphanum = true) ∧ DashesLead rest

theorem dashesLead_append {first second : List Token} (leadFirst : DashesLead first)
    (leadSecond : DashesLead second) : DashesLead (first ++ second) := by
  induction first with
  | nil => exact leadSecond
  | cons token rest ih =>
    refine ⟨fun dash => ?_, ih leadFirst.2⟩
    obtain ⟨c, next, alphanumeric⟩ := leadFirst.1 dash
    exact ⟨c, by simp [next], alphanumeric⟩

theorem dashesLead_bare {text : List Char} (plain : isPlainText text = true) :
    DashesLead (text.map .bare) := by
  induction text with
  | nil => trivial
  | cons c rest ih =>
    simp only [isPlainText, Bool.and_eq_true, Bool.or_eq_true, bne_iff_ne] at plain
    refine ⟨fun dash => ?_, ih plain.2⟩
    rcases plain.1.2 with noDash | next
    · exact absurd (Token.bare.inj dash) noDash
    · obtain ⟨d, first, alphanumeric⟩ := (Option.any_eq_true ..).mp next
      exact ⟨d, by simp [first], alphanumeric⟩

theorem not_double_dash {tokens : List Token} (lead : DashesLead tokens) :
    ¬ [Token.bare '-', Token.bare '-'] <:+: tokens := by
  rintro ⟨before, after, rfl⟩
  induction before with
  | nil =>
    obtain ⟨c, next, alphanumeric⟩ := lead.1 rfl
    cases next
    revert alphanumeric
    decide
  | cons token rest ih => exact ih lead.2

theorem Piece.dashesLead_tokens {nameQuote : Char} {piece : Piece} (plain : piece.IsPlain) :
    DashesLead (piece.tokens nameQuote) := by
  cases piece with
  | bare text => exact dashesLead_bare plain
  | verbatim text => exact plain.elim
  | name text | literal text => exact ⟨nofun, trivial⟩

theorem Piece.isPlainChar_of_bare_mem_tokens {nameQuote : Char} {piece : Piece}
    (plain : piece.IsPlain) {c : Char} (member : Token.bare c ∈ piece.tokens nameQuote) :
    isPlainChar c = true := by
  cases piece with
  | bare text =>
    obtain ⟨d, listed, same⟩ := List.mem_map.mp member
    cases same
    exact isPlainChar_of_mem plain listed
  | verbatim text => exact plain.elim
  | name text | literal text => simp [tokens] at member

/-- The text of a plain fragment whose quoted pieces stand apart is contained. -/
theorem Fragment.contained_text {dialect : Dialect} {fragment : Fragment} (plain : fragment.IsPlain)
    (spaced : fragment.IsSpaced) : Contained dialect.nameQuote (fragment.text dialect) := by
  refine ⟨fragment.tokens dialect.nameQuote, ?_, ?_, ?_⟩
  · rw [Fragment.text, String.toList_ofList, scan?_chars plain spaced]
  · intro c member
    obtain ⟨piece, listed, inside⟩ := List.mem_flatMap.mp member
    exact Piece.isPlainChar_of_bare_mem_tokens (plain piece listed) inside
  · apply not_double_dash
    clear spaced
    induction fragment with
    | nil => trivial
    | cons piece rest ih =>
      obtain ⟨here, others⟩ := List.forall_mem_cons.mp plain
      exact dashesLead_append (Piece.dashesLead_tokens here) (ih others)

/-! ## Plain trees -/

@[simp] theorem Piece.isPlain_bare {text : String} :
    (Piece.bare text).IsPlain ↔ isPlainText text.toList = true :=
  Iff.rfl

@[simp] theorem Piece.isPlain_name {text : String} : (Piece.name text).IsPlain := trivial

@[simp] theorem Piece.isPlain_literal {text : String} : (Piece.literal text).IsPlain := trivial

theorem isPlainText_append {first second : List Char} (plainFirst : isPlainText first = true)
    (plainSecond : isPlainText second = true) : isPlainText (first ++ second) = true := by
  induction first with
  | nil => exact plainSecond
  | cons c rest ih =>
    simp only [isPlainText, Bool.and_eq_true] at plainFirst
    obtain ⟨⟨plain, dash⟩, others⟩ := plainFirst
    have dashLeads : (c != '-' || (rest ++ second).head?.any Char.isAlphanum) = true := by
      cases rest with
      | nil => simp_all
      | cons => exact dash
    simp only [List.cons_append, isPlainText, plain, dashLeads, ih others, Bool.and_self]

/-- Whether the words of an argument are plain. -/
def TypeArgument.IsPlain : TypeArgument → Prop
  | .word text => isPlainText text.toList = true
  | .number _ | .literal _ => True

/-- Whether the words of a type are plain. -/
structure NativeType.IsPlain (type : NativeType) : Prop where
  word : isPlainText type.word.toList = true
  arguments : ∀ arguments ∈ type.arguments, ∀ argument ∈ arguments, argument.IsPlain
  tail : isPlainText type.tail.toList = true

/-- Whether a clause holds no text as it stands. -/
def ColumnClause.IsPlain : ColumnClause → Prop
  | .collate piece | .default piece => piece.IsPlain
  | _ => True

/-- Whether the type and all clauses of a column are plain. -/
structure ColumnDefinition.IsPlain (definition : ColumnDefinition) : Prop where
  type : definition.type.IsPlain
  clauses : ∀ clause ∈ definition.clauses, clause.IsPlain

/-- Whether an element holds no text as it stands. -/
def TableElement.IsPlain : TableElement → Prop
  | .column definition => definition.IsPlain
  | .constraint _ | .key .. => True

/-- Whether an option holds no text as it stands; only a comment does not. -/
def TableOption.IsPlain : TableOption → Prop
  | .comment _ => True
  | .engine _ | .charset _ | .collation _ => False

/-- Whether an action holds no text as it stands. -/
def Alteration.IsPlain : Alteration → Prop
  | .addColumn definition | .modifyColumn definition => definition.IsPlain
  | .setType _ type _ => type.IsPlain
  | .setDefault _ value => value.IsPlain
  | _ => True

/-- Whether a statement holds no text as it stands. -/
def Statement.IsPlain : Statement → Prop
  | .createTable _ _ elements options =>
    (∀ element ∈ elements, element.IsPlain) ∧ ∀ option ∈ options, option.IsPlain
  | .alterTable _ alterations => ∀ alteration ∈ alterations, alteration.IsPlain
  | .createIndex index => isPlainText index.qualifier.toList = true
  | _ => True

/-- Whether the source of a query and its conditions are plain. -/
structure Query.IsPlain (query : Query) : Prop where
  source : query.source.IsPlain
  conditions : ∀ condition ∈ query.conditions,
    isPlainText condition.1.toList = true ∧ condition.2.IsPlain

/-! ## The fragments of plain trees -/

theorem isPlainText_digits (n : Nat) : isPlainText (Decimal.digits n) = true := by
  apply isPlainText_of_forall
  intro c member
  have digit : c.isDigit = true := Nat.isDigit_of_mem_toDigits (by decide) (by decide) member
  constructor
  · simp [isPlainChar, Char.isAlphanum, digit]
  · rintro rfl
    revert digit
    decide

@[simp] theorem Path.isPlain_fragment (path : Path) : path.fragment.IsPlain := by
  refine isPlain_join (by decide) ?_
  intro fragment member
  obtain ⟨segment, _, rfl⟩ := List.mem_map.mp member
  simp

theorem TypeArgument.isPlain_piece {argument : TypeArgument} (plain : argument.IsPlain) :
    argument.piece.IsPlain := by
  cases argument with
  | number n =>
    show isPlainText (String.ofList (Decimal.digits n)).toList = true
    rw [String.toList_ofList]
    exact isPlainText_digits n
  | word text => exact plain
  | literal text => trivial

theorem NativeType.isPlain_fragment {type : NativeType} (plain : type.IsPlain) :
    type.fragment.IsPlain := by
  rcases type with ⟨word, _ | arguments, tail⟩
  · simp [fragment, plain.word, plain.tail]
  · have listed : (Fragment.commas (arguments.map fun argument => [argument.piece])).IsPlain := by
      apply isPlain_commas
      intro fragment member
      obtain ⟨argument, given, rfl⟩ := List.mem_map.mp member
      simpa using TypeArgument.isPlain_piece (plain.arguments arguments rfl argument given)
    simp [fragment, plain.word, plain.tail, listed]

@[simp] theorem Reference.isPlain_fragment (target : Reference) : target.fragment.IsPlain := by
  have keywords (action : ReferentialAction) : isPlainText action.keywords.toList = true := by
    cases action <;> decide
  rcases target with ⟨table, column, _ | delete, _ | update⟩ <;>
    simp +decide [fragment, isPlainText, keywords]

@[simp] theorem isPlain_oneOfFragment (column : String) (allowed : List String) :
    Fragment.IsPlain (oneOfFragment column allowed) := by
  simp +decide [oneOfFragment]

theorem ColumnClause.isPlain_fragment {clause : ColumnClause} (plain : clause.IsPlain) :
    clause.fragment.IsPlain := by
  cases clause with
  | collate piece | default piece =>
    have plain : piece.IsPlain := plain
    simp +decide [fragment, plain]
  | _ => simp +decide [fragment]

theorem ColumnDefinition.isPlain_fragment {definition : ColumnDefinition}
    (plain : definition.IsPlain) : definition.fragment.IsPlain := by
  have clauses : Fragment.IsPlain
      (definition.clauses.flatMap fun clause => .bare " " :: clause.fragment) := by
    apply isPlain_flatMap
    intro clause member
    have plain := ColumnClause.isPlain_fragment (plain.clauses clause member)
    simp +decide [plain]
  simp +decide [fragment, clauses, NativeType.isPlain_fragment plain.type]

@[simp] theorem Constraint.isPlain_fragment (constraint : Constraint) :
    constraint.fragment.IsPlain := by
  rcases constraint with ⟨_ | name, columns⟩ | ⟨name, column, target⟩ <;>
    simp +decide [fragment, foreignKeyFragment]

@[simp] theorem isPlain_methodFragment (method : Option IndexMethod) :
    Fragment.IsPlain (methodFragment method) := by
  rcases method with _ | method
  · simp [methodFragment]
  · cases method <;> simp +decide [methodFragment, IndexMethod.keyword]

theorem TableElement.isPlain_fragment {element : TableElement} (plain : element.IsPlain) :
    element.fragment.IsPlain := by
  cases element with
  | column definition => exact ColumnDefinition.isPlain_fragment plain
  | constraint stated => exact Constraint.isPlain_fragment stated
  | key kind name columns method =>
    cases kind <;> simp +decide [fragment, keyWords]

theorem TableOption.isPlain_fragment {option : TableOption} (plain : option.IsPlain) :
    option.fragment.IsPlain := by
  cases option with
  | comment text => simp +decide [fragment]
  | engine | charset | collation => exact plain.elim

@[simp] theorem isPlain_ifNotExistsPiece (ifNotExists : Bool) :
    (ifNotExistsPiece ifNotExists).IsPlain := by
  cases ifNotExists <;> simp +decide [ifNotExistsPiece]

@[simp] theorem IndexTarget.isPlain_fragment (target : IndexTarget) : target.fragment.IsPlain := by
  cases target with
  | columns before covered after => simp +decide [fragment]
  | textVectors covered =>
    have vectors : Fragment.IsPlain (.join " || " (covered.map fun column =>
        [.bare "to_tsvector(", .literal "english", .bare ", ", .name column, .bare ")"])) := by
      refine isPlain_join (by decide) ?_
      intro fragment member
      obtain ⟨column, _, rfl⟩ := List.mem_map.mp member
      simp +decide
    simp +decide [fragment, vectors]

theorem Alteration.isPlain_fragment {alteration : Alteration} (plain : alteration.IsPlain) :
    alteration.fragment.IsPlain := by
  cases alteration with
  | addColumn definition | modifyColumn definition =>
    simp +decide [fragment, ColumnDefinition.isPlain_fragment plain]
  | setType column type collation =>
    have type := NativeType.isPlain_fragment plain
    cases collation <;> simp +decide [fragment, type]
  | setDefault column value =>
    have plain : value.IsPlain := plain
    simp +decide [fragment, plain]
  | _ => simp +decide [fragment]

theorem Statement.isPlain_fragment {statement : Statement} (plain : statement.IsPlain) :
    statement.fragment.IsPlain := by
  cases statement with
  | createTable ifNotExists table elements options =>
    have listed : Fragment.IsPlain (.commas (elements.map TableElement.fragment)) := by
      apply isPlain_commas
      intro fragment member
      obtain ⟨element, given, rfl⟩ := List.mem_map.mp member
      exact TableElement.isPlain_fragment (plain.1 element given)
    have stated : Fragment.IsPlain (options.flatMap TableOption.fragment) :=
      isPlain_flatMap fun option member => TableOption.isPlain_fragment (plain.2 option member)
    simp +decide [fragment, listed, stated]
  | alterTable table alterations =>
    have listed : Fragment.IsPlain (.commas (alterations.map Alteration.fragment)) := by
      apply isPlain_commas
      intro fragment member
      obtain ⟨alteration, given, rfl⟩ := List.mem_map.mp member
      exact Alteration.isPlain_fragment (plain alteration given)
    simp +decide [fragment, listed]
  | createIndex index =>
    have qualifier : isPlainText index.qualifier.toList = true := plain
    simp +decide [fragment, IndexCreation.fragment, qualifier]
  | dropTable ifExists table => cases ifExists <;> simp +decide [fragment]
  | _ => simp +decide [fragment]

theorem Query.isPlain_fragment {query : Query} (plain : query.IsPlain) :
    query.fragment.IsPlain := by
  have conditions : Fragment.IsPlain (.join " AND " (query.conditions.map fun condition =>
      [.bare (condition.1 ++ " = "), condition.2])) := by
    refine isPlain_join (by decide) ?_
    intro fragment member
    obtain ⟨condition, given, rfl⟩ := List.mem_map.mp member
    obtain ⟨word, value⟩ := plain.conditions condition given
    have compared : isPlainText (condition.1 ++ " = ").toList = true := by
      rw [String.toList_append]
      exact isPlainText_append word (by decide)
    simp only [Fragment.isPlain_cons, Piece.isPlain_bare, Fragment.isPlain_nil, and_true]
    exact ⟨compared, value⟩
  simp +decide [fragment, plain.source, conditions]

/-- The text of a plain statement is contained, whatever its names and literals are. -/
theorem Statement.contained_text {dialect : Dialect} {statement : Statement}
    (plain : statement.IsPlain) : Contained dialect.nameQuote (statement.text dialect) :=
  Fragment.contained_text (isPlain_fragment plain) (isSpaced_fragment statement)

theorem Query.contained_text {dialect : Dialect} {query : Query} (plain : query.IsPlain)
    (spaced : query.source.IsSpaced) : Contained dialect.nameQuote (query.text dialect) :=
  Fragment.contained_text (isPlain_fragment plain) (isSpaced_fragment spaced)

end TablePlan.Sql

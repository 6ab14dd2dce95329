import TablePlan.Proofs.Json.ReadBack

/-!
# Reading back integers

The digits of a number join one after the other, as long as the number fits into 64 bits, and nothing
but zero begins with a zero.  Main statement: the integers of a word read back (`faithful_bounded`).
-/

namespace TablePlan.Json

open Decimal (digits signedDigits)

/-! ## Digits -/

theorem isDigit_of_mem_digits {n : Nat} {c : Char} (listed : c ∈ digits n) : c.isDigit = true :=
  Nat.isDigit_of_mem_toDigits (by decide) (by decide) listed

theorem digits_ne_nil (n : Nat) : digits n ≠ [] :=
  Nat.toDigits_ne_nil

/-- A number other than zero does not begin with a zero. -/
theorem head?_digits {n : Nat} (positive : 0 < n) : (digits n).head? ≠ some '0' := by
  induction n using Nat.strongRecOn with
  | ind n ih =>
    by_cases small : n < 10
    · have all : ∀ n : Fin 10, 0 < n.val → (digits n).head? ≠ some '0' := by decide
      exact all ⟨n, small⟩ positive
    · have large : 10 ≤ n := by omega
      have split : digits n = digits (n / 10) ++ [Nat.digitChar (n % 10)] :=
        Nat.toDigits_of_base_le (by decide) large
      have shorter := ih (n / 10) (by omega) (by omega)
      rwa [split, List.head?_append_of_ne_nil _ (digits_ne_nil _)]

theorem startsWithDigit_of_delimited {rest : List Char} (delimited : Delimited rest) :
    startsWithDigit rest = false := by
  cases rest with
  | nil => rfl
  | cons c rest =>
    rcases delimited c rfl with rfl | rfl | rfl <;> rfl

theorem le_ofDigitChars (written : List Char) (start : Nat) :
    start ≤ Nat.ofDigitChars 10 written start := by
  induction written generalizing start with
  | nil => simp
  | cons c written ih =>
    rw [Nat.ofDigitChars_cons]
    have next := ih (10 * start + (c.toNat - '0'.toNat))
    omega

/-- Digits that stay below the bound all join. -/
theorem gather_append {written : List Char} (allDigits : ∀ c ∈ written, c.isDigit = true)
    {rest : List Char} (ends : startsWithDigit rest = false) (start : Nat)
    (fits : Nat.ofDigitChars 10 written start < 0x10000000000000000) :
    gather start (written ++ rest) =
      (Nat.ofDigitChars 10 written start, written.length, rest) := by
  induction written generalizing start with
  | nil =>
    cases rest with
    | nil => rfl
    | cons c rest =>
      have noDigit : c.isDigit = false := by simpa [startsWithDigit] using ends
      simp [gather, noDigit]
  | cons c written ih =>
    obtain ⟨isDigit, others⟩ := List.forall_mem_cons.mp allDigits
    rw [Nat.ofDigitChars_cons] at fits ⊢
    have joined := le_ofDigitChars written (10 * start + digitValue c)
    have small : 10 * start + digitValue c < 0x10000000000000000 := Nat.lt_of_le_of_lt joined fits
    rw [List.cons_append, gather]
    simp only [isDigit, small, decide_true, Bool.and_true, if_true]
    have joins := ih others (10 * start + digitValue c) fits
    rw [joins]
    rfl

/-! ## Numbers -/

/-- Digits without a zero in front are read as the integer that they stand for. -/
theorem readUnsigned_digits (negative : Bool) {n : Nat} (fits : n < 0x10000000000000000)
    {rest : List Char} (delimited : Delimited rest) :
    readUnsigned negative (digits n ++ rest) =
      (integer negative n).map fun value => (value, rest) := by
  have ends := startsWithDigit_of_delimited delimited
  obtain ⟨first, tail, split⟩ := List.exists_cons_of_ne_nil (digits_ne_nil n)
  have allDigits : ∀ c ∈ first :: tail, c.isDigit = true := by
    rw [← split]
    exact fun c => isDigit_of_mem_digits
  obtain ⟨firstDigit, others⟩ := List.forall_mem_cons.mp allDigits
  -- Zero is a single digit, so no digit follows a leading zero.
  have noLeadingZero : ¬ (first = '0' ∧ startsWithDigit (tail ++ rest) = true) := by
    rintro ⟨rfl, more⟩
    rcases Nat.eq_zero_or_pos n with rfl | positive
    · cases split
      rw [List.nil_append, ends] at more
      cases more
    · exact head?_digits positive (by rw [split]; rfl)
  have value : Nat.ofDigitChars 10 tail (digitValue first) = n := by
    have whole : Nat.ofDigitChars 10 (first :: tail) 0 = n := by
      rw [← split]
      exact Nat.ofDigitChars_ten_toDigits
    rwa [Nat.ofDigitChars_cons, Nat.mul_zero, Nat.zero_add] at whole
  have gathered : gather (digitValue first) (tail ++ rest) = (n, tail.length, rest) := by
    rw [gather_append others ends _ (by rwa [value]), value]
  rw [split, List.cons_append, readUnsigned]
  simp only [firstDigit, Bool.not_true, if_neg noLeadingZero, gathered]
  cases rest with
  | nil => cases integer negative n <;> rfl
  | cons c rest =>
    rcases delimited c rfl with rfl | rfl | rfl <;> cases integer negative n <;> rfl

theorem ne_of_isDigit {c other : Char} (isDigit : c.isDigit = true)
    (noDigit : other.isDigit = false) : c ≠ other := by
  rintro rfl
  rw [isDigit] at noDigit
  cases noDigit

/-- What an integer is written with begins a number. -/
theorem signedDigits_cons (n : Int) :
    ∃ c tail, signedDigits n = c :: tail ∧ (c = '-' ∨ c.isDigit = true) := by
  unfold signedDigits
  split
  · exact ⟨'-', _, rfl, .inl rfl⟩
  · obtain ⟨first, tail, split⟩ := List.exists_cons_of_ne_nil (digits_ne_nil n.natAbs)
    exact ⟨first, tail, split, .inr (isDigit_of_mem_digits (split ▸ List.mem_cons_self))⟩

theorem opens_signedDigits (n : Int) : Opens (signedDigits n) := by
  obtain ⟨c, tail, written, rfl | isDigit⟩ := signedDigits_cons n
  · exact ⟨'-', tail, written, by decide, by decide, by decide⟩
  · have noSpace : isSpace c = false := by
      have others (other : Char) (noDigit : other.isDigit = false) : (c == other) = false :=
        beq_false_of_ne (ne_of_isDigit isDigit noDigit)
      simp [isSpace, others ' ', others '\n', others '\t', others '\r']
    exact ⟨c, tail, written, noSpace, ne_of_isDigit isDigit rfl, ne_of_isDigit isDigit rfl⟩

/-- An integer that fits into 64 bits with its sign is read as an integer. -/
theorem readNumber_signedDigits {n : Int} (least : -0x8000000000000000 ≤ n)
    (most : n < 0x10000000000000000) {rest : List Char} (delimited : Delimited rest) :
    readNumber (signedDigits n ++ rest) = .ok (.integer n, rest) := by
  unfold signedDigits
  split
  · next negative =>
    have small : n.natAbs < 0x10000000000000000 := by omega
    have signed : integer true n.natAbs = .ok (.integer n) := by
      have bounds : 0 < n.natAbs ∧ n.natAbs ≤ 0x8000000000000000 := by omega
      have value : -(n.natAbs : Int) = n := by omega
      rw [integer, if_neg (by decide), if_pos bounds, value]
    rw [List.cons_append, readNumber, readUnsigned_digits true small delimited, signed]
    rfl
  · next natural =>
    have small : n.natAbs < 0x10000000000000000 := by omega
    have unsigned : integer false n.natAbs = .ok (.integer n) := by
      have value : (n.natAbs : Int) = n := by omega
      rw [integer, if_pos (by decide), value]
    have noSign : ∀ tail, digits n.natAbs ++ rest ≠ '-' :: tail := by
      intro tail same
      obtain ⟨first, others, split⟩ := List.exists_cons_of_ne_nil (digits_ne_nil n.natAbs)
      have isDigit : first.isDigit = true := isDigit_of_mem_digits (split ▸ List.mem_cons_self)
      rw [split] at same
      exact ne_of_isDigit isDigit rfl (List.cons.inj same).1
    rw [readNumber, readUnsigned_digits false small delimited, unsigned]
    · rfl
    · exact noSign

/-- An integer is read back, if it fits into 64 bits with its sign. -/
theorem faithful_wholeNumber {n : Int} (least : -0x8000000000000000 ≤ n)
    (most : n < 0x10000000000000000) : wholeNumber.Faithful n := by
  refine ⟨fun rest delimited => ?_, opens_signedDigits n⟩
  have read := readNumber_signedDigits least most delimited
  obtain ⟨c, tail, written, begins⟩ := signedDigits_cons n
  have noSpace : isSpace c = false := by
    obtain ⟨_, _, written', noSpace, _⟩ := opens_signedDigits n
    rw [written] at written'
    rwa [(List.cons.inj written').1]
  show wholeNumber.read (signedDigits n ++ rest) = _
  rw [written, List.cons_append] at read ⊢
  simp only [wholeNumber, number, skipSpace_cons noSpace, if_pos begins, read]
  rfl

/-- The integers of a word are read back. -/
theorem faithful_bounded {α : Type} {low high : Int} {make : Int → α} {value : α → Int} {a : α}
    (word : -0x8000000000000000 ≤ low ∧ high < 0x10000000000000000)
    (inside : low ≤ value a ∧ value a ≤ high) (inverse : make (value a) = a) :
    (bounded low high make value).Faithful a := by
  have whole : wholeNumber.Faithful (value a) := faithful_wholeNumber (by omega) (by omega)
  refine faithful_filterMap whole ?_
  rw [if_pos inside, inverse]

theorem faithful_byte (n : UInt8) : byte.Faithful n := by
  have most := n.toNat_lt
  exact faithful_bounded (by decide) (by omega) (by simp)

theorem faithful_word (n : UInt32) : word.Faithful n := by
  have most := n.toNat_lt
  exact faithful_bounded (by decide) (by omega) (by simp)

theorem faithful_signedWord (n : Int64) : signedWord.Faithful n := by
  have least := n.le_toInt
  have most := n.toInt_lt
  exact faithful_bounded (by decide) (by omega) (Int64.ofInt_toInt n)

end TablePlan.Json

import TablePlan.Json.Problem

/-!
# JSON strings

Writing escapes the quote, the backslash and the control characters, and nothing else.  Reading
takes every escape that JSON knows; a code above the basic plane is a pair of escapes.  Main
statement: a written string reads back as the string, whatever follows it
(`readTextInside_flatMap_escapeChar`).
-/

namespace TablePlan.Json

/-! ## Writing -/

/-- A digit of base sixteen, in lower case. -/
def hexDigit (n : Nat) : Char :=
  Nat.digitChar n

/-- A character inside a string. -/
def escapeChar (c : Char) : List Char :=
  if c = '"' then ['\\', '"']
  else if c = '\\' then ['\\', '\\']
  else if c = '\n' then ['\\', 'n']
  else if c = '\r' then ['\\', 'r']
  else if c = '\t' then ['\\', 't']
  else if c = '\x08' then ['\\', 'b']
  else if c = '\x0c' then ['\\', 'f']
  else if c.toNat < 0x20 then
    ['\\', 'u', '0', '0', hexDigit (c.toNat / 16), hexDigit (c.toNat % 16)]
  else [c]

/-- A string in its quotes. -/
def writeText (text : List Char) : List Char :=
  '"' :: (text.flatMap escapeChar ++ ['"'])

/-! ## Reading -/

/-- The value of a digit of base sixteen. -/
def hexValue? (c : Char) : Option Nat :=
  if '0' ≤ c ∧ c ≤ '9' then some (c.toNat - '0'.toNat)
  else if 'a' ≤ c ∧ c ≤ 'f' then some (c.toNat - 'a'.toNat + 10)
  else if 'A' ≤ c ∧ c ≤ 'F' then some (c.toNat - 'A'.toNat + 10)
  else none

/-- Reads the four digits of a code.  A text with fewer than four bytes left ends early, whatever
the bytes are. -/
def readCode : Reader Nat
  | a :: b :: c :: d :: rest =>
    match hexValue? a, hexValue? b, hexValue? c, hexValue? d with
    | some a, some b, some c, some d => .ok (((a * 16 + b) * 16 + c) * 16 + d, rest)
    | _, _, _, _ => .error .malformed
  | few =>
    if (String.ofList few).utf8ByteSize < 4 then .error .endsEarly else .error .malformed

/-- Reads the second half of a pair of codes, up to the character that the pair stands for. -/
def readLowHalf (high : Nat) : Reader Char
  | [] => .error .endsEarly
  | '\\' :: [] => .error .endsEarly
  | '\\' :: 'u' :: rest => do
    let (low, rest) ← readCode rest
    if 0xDC00 ≤ low ∧ low ≤ 0xDFFF then
      return (Char.ofNat (0x10000 + (high - 0xD800) * 0x400 + (low - 0xDC00)), rest)
    else .error .malformed
  | _ => .error .malformed

/-- Reads what follows a backslash.  Half of a pair does not stand alone. -/
def readEscape : Reader Char
  | [] => .error .endsEarly
  | '"' :: rest => .ok ('"', rest)
  | '\\' :: rest => .ok ('\\', rest)
  | '/' :: rest => .ok ('/', rest)
  | 'b' :: rest => .ok ('\x08', rest)
  | 'f' :: rest => .ok ('\x0c', rest)
  | 'n' :: rest => .ok ('\n', rest)
  | 'r' :: rest => .ok ('\r', rest)
  | 't' :: rest => .ok ('\t', rest)
  | 'u' :: rest => do
    let (code, rest) ← readCode rest
    if 0xDC00 ≤ code ∧ code ≤ 0xDFFF then .error .malformed
    else if 0xD800 ≤ code ∧ code ≤ 0xDBFF then readLowHalf code rest
    else return (Char.ofNat code, rest)
  | _ => .error .malformed

/-- Reads what follows a backslash in a string whose value is of no interest: a code may be any. -/
def skipEscape : Reader Char
  | 'u' :: rest => do
    let (code, rest) ← readCode rest
    return (Char.ofNat code, rest)
  | text => readEscape text

/-- Reads characters and escapes up to the closing quote; `fuel` bounds their number. -/
def readInside (escape : Reader Char) : (fuel : Nat) → Reader (List Char)
  | _, [] => .error .endsEarly
  | 0, _ => .error .endsEarly
  | fuel + 1, c :: rest =>
    if c = '"' then .ok ([], rest)
    else if c = '\\' then do
      let (c, rest) ← escape rest
      let (others, rest) ← readInside escape fuel rest
      return (c :: others, rest)
    else if c.toNat < 0x20 then .error .malformed
    else do
      let (others, rest) ← readInside escape fuel rest
      return (c :: others, rest)

/-- Reads a string after its opening quote. -/
def readTextInside : Reader String := fun text => do
  let (inside, rest) ← readInside readEscape text.length text
  return (String.ofList inside, rest)

/-- Passes over a string after its opening quote. -/
def skipTextInside (text : List Char) : Except Problem (List Char) := do
  let (_, rest) ← readInside skipEscape text.length text
  return rest

/-! ## Reading what was written -/

theorem hexValue?_hexDigit {n : Nat} (small : n < 16) : hexValue? (hexDigit n) = some n := by
  have all : ∀ n : Fin 16, hexValue? (hexDigit n) = some n.val := by decide
  exact all ⟨n, small⟩

/-- The code of a control character reads back as the character. -/
theorem readEscape_code {c : Char} (control : c.toNat < 0x20) (rest : List Char) :
    readEscape ('u' :: '0' :: '0' :: hexDigit (c.toNat / 16) :: hexDigit (c.toNat % 16) :: rest)
      = .ok (c, rest) := by
  have zero : hexValue? '0' = some 0 := by decide
  have high : hexValue? (hexDigit (c.toNat / 16)) = some (c.toNat / 16) :=
    hexValue?_hexDigit (by omega)
  have low : hexValue? (hexDigit (c.toNat % 16)) = some (c.toNat % 16) :=
    hexValue?_hexDigit (by omega)
  have whole : c.toNat / 16 * 16 + c.toNat % 16 = c.toNat := by omega
  have noLowHalf : ¬ (0xDC00 ≤ c.toNat ∧ c.toNat ≤ 0xDFFF) := by omega
  have noHighHalf : ¬ (0xD800 ≤ c.toNat ∧ c.toNat ≤ 0xDBFF) := by omega
  simp [readEscape, readCode, zero, high, low, whole, noLowHalf, noHighHalf, bind, Except.bind,
    pure, Except.pure]

/-- The inside of a written string reads back as the string. -/
theorem readInside_flatMap_escapeChar (text rest : List Char) {fuel : Nat}
    (enough : text.length < fuel) :
    readInside readEscape fuel (text.flatMap escapeChar ++ '"' :: rest) = .ok (text, rest) := by
  induction text generalizing fuel with
  | nil =>
    obtain ⟨n, rfl⟩ := Nat.exists_eq_add_of_lt enough
    simp [readInside]
  | cons c text ih =>
    obtain ⟨n, rfl⟩ : ∃ n, fuel = n + 1 := ⟨fuel - 1, by simp at enough; omega⟩
    have next : readInside readEscape n (text.flatMap escapeChar ++ '"' :: rest)
        = .ok (text, rest) := ih (by simpa using enough)
    have escaped : ∀ found,
        readEscape (found ++ (text.flatMap escapeChar ++ '"' :: rest))
          = .ok (c, text.flatMap escapeChar ++ '"' :: rest) →
        readInside readEscape (n + 1) ('\\' :: found ++ (text.flatMap escapeChar ++ '"' :: rest))
          = .ok (c :: text, rest) := by
      intro found read
      simp only [List.cons_append, readInside]
      simp [read, next, bind, Except.bind, pure, Except.pure]
    simp only [List.flatMap_cons, escapeChar, List.append_assoc]
    split
    · subst_vars; exact escaped ['"'] rfl
    split
    · subst_vars; exact escaped ['\\'] rfl
    split
    · subst_vars; exact escaped ['n'] rfl
    split
    · subst_vars; exact escaped ['r'] rfl
    split
    · subst_vars; exact escaped ['t'] rfl
    split
    · subst_vars; exact escaped ['b'] rfl
    split
    · subst_vars; exact escaped ['f'] rfl
    split
    · rename_i control
      exact escaped _ (readEscape_code control _)
    · rename_i quote backslash _ _ _ _ _ control
      simp [readInside, quote, backslash, control, next, bind, Except.bind, pure, Except.pure]

/-- Escaping makes no text shorter. -/
theorem length_le_flatMap_escapeChar (text : List Char) :
    text.length ≤ (text.flatMap escapeChar).length := by
  induction text with
  | nil => simp
  | cons c text ih =>
    have one : 1 ≤ (escapeChar c).length := by
      unfold escapeChar
      repeat' split
      all_goals simp
    simp only [List.length_cons, List.flatMap_cons, List.length_append]
    omega

/-- A written string reads back as the string, whatever follows it. -/
theorem readTextInside_flatMap_escapeChar (text : String) (rest : List Char) :
    readTextInside (text.toList.flatMap escapeChar ++ '"' :: rest) = .ok (text, rest) := by
  have enough : text.toList.length < (text.toList.flatMap escapeChar ++ '"' :: rest).length := by
    have longer := length_le_flatMap_escapeChar text.toList
    simp only [List.length_append, List.length_cons]
    omega
  unfold readTextInside
  rw [readInside_flatMap_escapeChar _ _ enough]
  simp [bind, Except.bind, pure, Except.pure]

end TablePlan.Json

import TablePlan.Decimal.Layout
import TablePlan.Json.Number
import TablePlan.Json.Text

/-!
# Codecs

A codec writes the values of a type as JSON and reads them off the front of a text.  Values of
other kinds are refused where they begin, once it is known what they are.
-/

namespace TablePlan.Json

/-- How the values of a type are read and written. -/
structure Codec (α : Type) where
  read : Reader α
  write : α → List Char

/-- What is wrong with a value of another kind than the expected one, from its first character on.
A scalar is read to its end first. -/
def wrongKind (text : List Char) : Problem :=
  let scalar {α : Type} : Except Problem α → Problem
    | .ok _ => .wrongData
    | .error problem => problem
  match text with
  | [] => .endsEarly
  | 'n' :: rest => scalar (readWord "ull".toList rest)
  | 't' :: rest => scalar (readWord "rue".toList rest)
  | 'f' :: rest => scalar (readWord "alse".toList rest)
  | '"' :: rest => scalar (readTextInside rest)
  | '[' :: _ | '{' :: _ => .wrongData
  | c :: rest => if c = '-' ∨ c.isDigit then scalar (readNumber (c :: rest)) else .malformed

/-- Reads a whole text: one value, and nothing but white space after it. -/
def Codec.ofText {α : Type} (codec : Codec α) (text : String) : Except Problem α := do
  let (value, rest) ← codec.read text.toList
  if (skipSpace rest).isEmpty then return value else .error .malformed

/-- The text of a value. -/
def Codec.toText {α : Type} (codec : Codec α) (value : α) : String :=
  String.ofList (codec.write value)

/-- The codec of a type whose values correspond to those of another one. -/
def Codec.map {α β : Type} (codec : Codec α) (make : α → β) (parts : β → α) : Codec β where
  read text := do
    let (value, rest) ← codec.read text
    return (make value, rest)
  write value := codec.write (parts value)

/-- The codec of a type of which only some values of another one are. -/
def Codec.filterMap {α β : Type} (codec : Codec α) (make? : α → Option β) (parts : β → α) :
    Codec β where
  read text := do
    let (value, rest) ← codec.read text
    match make? value with
    | some value => return (value, rest)
    | none => .error .wrongData
  write value := codec.write (parts value)

/-! ## Scalars -/

/-- Strings. -/
def text : Codec String where
  read s :=
    match skipSpace s with
    | '"' :: rest => readTextInside rest
    | other => .error (wrongKind other)
  write value := writeText value.toList

/-- A string reads back, whatever follows it. -/
theorem read_write_text (value : String) (rest : List Char) :
    text.read (text.write value ++ rest) = .ok (value, rest) := by
  have quote : isSpace '"' = false := by decide
  simp [text, writeText, skipSpace, quote, readTextInside_flatMap_escapeChar]

/-- Truth values. -/
def boolean : Codec Bool where
  read s :=
    match skipSpace s with
    | 't' :: rest => do return (true, ← readWord "rue".toList rest)
    | 'f' :: rest => do return (false, ← readWord "alse".toList rest)
    | other => .error (wrongKind other)
  write value := if value then "true".toList else "false".toList

/-- The word that stands for no value. -/
def null : Codec Unit where
  read s :=
    match skipSpace s with
    | 'n' :: rest => do return ((), ← readWord "ull".toList rest)
    | other => .error (wrongKind other)
  write _ := "null".toList

/-- Reads a number of any kind. -/
def number : Reader Number := fun s =>
  match skipSpace s with
  | [] => .error .endsEarly
  | c :: rest =>
    if c = '-' ∨ c.isDigit then readNumber (c :: rest) else .error (wrongKind (c :: rest))

/-- Integers of any size that a number may have. -/
def wholeNumber : Codec Int where
  read s := do
    match ← number s with
    | (.integer n, rest) => return (n, rest)
    | (.float _, _) => .error .wrongData
  write := Decimal.signedDigits

/-- Integers of a range. -/
def bounded {α : Type} (low high : Int) (make : Int → α) (value : α → Int) : Codec α :=
  wholeNumber.filterMap (fun n => if low ≤ n ∧ n ≤ high then some (make n) else none) value

/-- Words of eight bits. -/
def byte : Codec UInt8 :=
  bounded 0 0xFF (fun n => n.toNat.toUInt8) fun n => n.toNat

/-- Words of thirty-two bits. -/
def word : Codec UInt32 :=
  bounded 0 0xFFFFFFFF (fun n => n.toNat.toUInt32) fun n => n.toNat

/-- Signed words of sixty-four bits. -/
def signedWord : Codec Int64 :=
  bounded (-0x8000000000000000) 0x7FFFFFFFFFFFFFFF Int64.ofInt Int64.toInt

/-- Numbers in JSON always have a point or an exponent; the exponent begins at `1e16` and below
`1e-5`. -/
def numberLayout : Decimal.Layout :=
  { isPositional := fun e => -5 ≤ e && e < 16, pointZero := true, tie := .toEven }

/-- Floating-point numbers; an integer is one of them.  Without a number that JSON can write, they
are written as no value. -/
def float : Codec Binary64 where
  read s := do
    match ← number s with
    | (.float x, rest) => return (x, rest)
    | (.integer n, rest) =>
      let x := Binary64.ofFloat n.natAbs.toUInt64.toFloat
      return (if n < 0 then x.negate else x, rest)
  write x := if x.isFinite then numberLayout.text x else null.write ()

/-! ## Options and lists -/

/-- Values that may be missing. -/
def Codec.orNull {α : Type} (codec : Codec α) : Codec (Option α) where
  read s :=
    match skipSpace s with
    | 'n' :: rest => do return (none, ← readWord "ull".toList rest)
    | other => do
      let (value, rest) ← codec.read other
      return (some value, rest)
  write
    | none => null.write ()
    | some value => codec.write value

/-- Finds the next element of an array; `none` when the closing bracket is next. -/
def nextElement? (first : Bool) (s : List Char) : Except Problem (Option (List Char)) :=
  match skipSpace s with
  | [] => .error .endsEarly
  | ']' :: _ => .ok none
  | c :: rest =>
    if first then .ok (some (c :: rest))
    else if c = ',' then
      match skipSpace rest with
      | [] => .error .endsEarly
      | ']' :: _ => .error .malformed
      | element => .ok (some element)
    else .error .malformed

/-- Passes over the closing bracket of an array. -/
def closeArray (s : List Char) : Except Problem (List Char) :=
  match skipSpace s with
  | [] => .error .endsEarly
  | ']' :: rest => .ok rest
  | _ => .error .malformed

/-- Reads elements up to the closing bracket; `fuel` bounds their number. -/
def readElements {α : Type} (read : Reader α) : (fuel : Nat) → (first : Bool) → Reader (List α)
  | 0, _, _ => .error .endsEarly
  | fuel + 1, first, s => do
    match ← nextElement? first s with
    | none => return ([], ← closeArray s)
    | some element =>
      let (value, rest) ← read element
      let (others, rest) ← readElements read fuel false rest
      return (value :: others, rest)

/-- Parts in a row, set apart by commas. -/
def commaSeparated : List (List Char) → List Char
  | [] => []
  | [part] => part
  | part :: rest => part ++ ',' :: commaSeparated rest

/-- Lists. -/
def Codec.list {α : Type} (codec : Codec α) : Codec (List α) where
  read s :=
    match skipSpace s with
    | '[' :: rest => readElements codec.read (rest.length + 1) true rest
    | other => .error (wrongKind other)
  write values := '[' :: (commaSeparated (values.map codec.write) ++ [']'])

end TablePlan.Json

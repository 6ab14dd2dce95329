import TablePlan.Decimal.Binary64
import TablePlan.Json.Problem

/-!
# JSON numbers

A number without point and exponent that fits into 64 bits is an integer; every other one is a
floating-point number.  Of its digits those count that fit into 64 bits, and their value is scaled
by a power of ten in floating-point arithmetic; a number that is too large for the format is
refused as malformed.
-/

namespace TablePlan.Json

/-- A number as it is written.  Zero with a sign is no integer. -/
inductive Number where
  | integer (n : Int)
  | float (x : Binary64)
  deriving DecidableEq, Repr

/-- The value of a decimal digit. -/
def digitValue (c : Char) : Nat :=
  c.toNat - '0'.toNat

/-- Whether a text goes on with a digit. -/
def startsWithDigit (text : List Char) : Bool :=
  text.head?.any Char.isDigit

/-- Digits join a significand as long as it stays below `2 ^ 64`.  The answer holds the significand,
how many joined, and the rest of the text. -/
def gather (significand : Nat) : List Char → Nat × Nat × List Char
  | [] => (significand, 0, [])
  | c :: rest =>
    let next := 10 * significand + digitValue c
    if c.isDigit && next < 0x10000000000000000 then
      let (all, joined, rest) := gather next rest
      (all, joined + 1, rest)
    else (significand, 0, c :: rest)

/-- The power of ten, rounded to the format. -/
def powerOfTen (k : Nat) : Float :=
  Float.ofScientific 1 false k

/-- Divides by a power of ten, by at most `10 ^ 308` at a time. -/
def scaleDown (x : Float) (k : Nat) : Float :=
  if k ≤ 308 then x / powerOfTen k
  else if x == 0 then x
  else scaleDown (x / powerOfTen 308) (k - 308)
  termination_by k

/-- The number `significand * 10 ^ exponent` with a sign. -/
def scaled (negative : Bool) (significand : Nat) (exponent : Int) : Except Problem Number :=
  let x := significand.toUInt64.toFloat
  let signed (x : Float) : Number :=
    .float (if negative then (Binary64.ofFloat x).negate else Binary64.ofFloat x)
  if exponent < 0 then .ok (signed (scaleDown x exponent.natAbs))
  else if exponent ≤ 308 then
    let y := x * powerOfTen exponent.natAbs
    if y.isInf then .error .malformed else .ok (signed y)
  else if significand = 0 then .ok (signed x)
  else .error .malformed

/-- The integer of a significand with a sign, if it is one. -/
def integer (negative : Bool) (significand : Nat) : Except Problem Number :=
  if !negative then .ok (.integer significand)
  else if 0 < significand ∧ significand ≤ 0x8000000000000000 then .ok (.integer (-significand))
  else scaled true significand 0

/-- The digits at the front, as a number of any size. -/
def leadingNumber (text : List Char) : Nat :=
  (text.takeWhile Char.isDigit).foldl (fun n c => 10 * n + digitValue c) 0

/-- Reads an exponent after its mark, and with it the end of the number. -/
def readExponent (negative : Bool) (significand : Nat) (start : Int) : Reader Number := fun text =>
  let (down, digits) :=
    match text with
    | '-' :: rest => (true, rest)
    | '+' :: rest => (false, rest)
    | rest => (false, rest)
  if digits.isEmpty then .error .endsEarly
  else if !startsWithDigit digits then .error .malformed
  else
    let size : Int := leadingNumber digits
    do
      let value ← scaled negative significand (if down then start - size else start + size)
      return (value, digits.dropWhile Char.isDigit)

/-- Reads the end of a number after its digits: an exponent, or nothing. -/
def readTail (negative : Bool) (significand : Nat) (exponent : Int) : Reader Number
  | 'e' :: rest | 'E' :: rest => readExponent negative significand exponent rest
  | rest => do
    let value ← scaled negative significand exponent
    return (value, rest)

/-- Reads the places after a point, and with them the end of the number. -/
def readPlaces (negative : Bool) (significand : Nat) (start : Int) : Reader Number := fun text =>
  if startsWithDigit text then
    let (significand, joined, rest) := gather significand text
    readTail negative significand (start - joined) (rest.dropWhile Char.isDigit)
  else .error (if text.isEmpty then .endsEarly else .malformed)

/-- Reads a number after its sign.  Only zero itself begins with a zero. -/
def readUnsigned (negative : Bool) : Reader Number
  | [] => .error .endsEarly
  | first :: rest =>
    if !first.isDigit then .error .malformed
    else if first = '0' ∧ startsWithDigit rest then .error .malformed
    else
      let (significand, _, rest) := gather (digitValue first) rest
      let dropped := (rest.takeWhile Char.isDigit).length
      match rest.dropWhile Char.isDigit with
      | '.' :: rest => readPlaces negative significand dropped rest
      | 'e' :: rest | 'E' :: rest => readExponent negative significand dropped rest
      | rest => do
        let value ←
          if dropped = 0 then integer negative significand
          else scaled negative significand dropped
        return (value, rest)

/-- Reads a number from its first character. -/
def readNumber : Reader Number
  | '-' :: rest => readUnsigned true rest
  | text => readUnsigned false text

/-! ## Passing over a number -/

/-- Passes over an exponent after its mark. -/
def skipExponent (text : List Char) : Except Problem (List Char) :=
  let digits :=
    match text with
    | '-' :: rest | '+' :: rest => rest
    | rest => rest
  if startsWithDigit digits then .ok (digits.dropWhile Char.isDigit) else .error .malformed

/-- Passes over an exponent, if there is one. -/
def skipTail : List Char → Except Problem (List Char)
  | 'e' :: rest | 'E' :: rest => skipExponent rest
  | rest => .ok rest

/-- Passes over a number whose value is of no interest, so that its size does not count.  One that
the end of the text cuts short is malformed. -/
def skipNumber (text : List Char) : Except Problem (List Char) :=
  let digits :=
    match text with
    | '-' :: rest => rest
    | rest => rest
  if !startsWithDigit digits then .error .malformed
  else if digits.head? = some '0' ∧ startsWithDigit digits.tail then .error .malformed
  else
    match digits.dropWhile Char.isDigit with
    | '.' :: rest =>
      if startsWithDigit rest then skipTail (rest.dropWhile Char.isDigit) else .error .malformed
    | rest => skipTail rest

end TablePlan.Json

/-!
# What can be wrong with a JSON text

A text is read from left to right, and the first problem met is the one reported.
-/

namespace TablePlan.Json

/-- The kind of the first problem of a text. -/
inductive Problem where
  /-- The text is not JSON. -/
  | malformed
  /-- The text ends before the value does. -/
  | endsEarly
  /-- The text is JSON so far, but not of the expected data. -/
  | wrongData
  deriving DecidableEq, Repr

/-- What is left of a text after something was read off its front. -/
abbrev Reader (α : Type) := List Char → Except Problem (α × List Char)

/-- The white space of JSON. -/
def isSpace (c : Char) : Bool :=
  c == ' ' || c == '\n' || c == '\t' || c == '\r'

/-- The text from its first character that is no white space. -/
def skipSpace (text : List Char) : List Char :=
  text.dropWhile isSpace

/-- Reads the rest of a word whose first character told what it is. -/
def readWord : List Char → List Char → Except Problem (List Char)
  | [], rest => .ok rest
  | _ :: _, [] => .error .endsEarly
  | expected :: word, c :: rest => if c = expected then readWord word rest else .error .malformed

@[simp] theorem readWord_append (word rest : List Char) :
    readWord word (word ++ rest) = .ok rest := by
  induction word with
  | nil => rfl
  | cons c word ih => simp [readWord, ih]

end TablePlan.Json

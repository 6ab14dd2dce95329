import TablePlan.Json.Number
import TablePlan.Json.Text

/-!
# Passing over a value

A value that nothing is to be learnt from still has to be JSON.
-/

namespace TablePlan.Json

/-- An open bracket. -/
inductive Bracket where
  | array
  | object
  deriving DecidableEq, Repr

/-- Where in a value the reader stands: before a value, before a key, or behind a value. -/
inductive Place where
  | value
  | key
  | next
  deriving DecidableEq, Repr

/-- Passes over the scalar at the front of a text that is not empty. -/
def skipScalar : List Char → Except Problem (List Char)
  | 'n' :: rest => readWord "ull".toList rest
  | 't' :: rest => readWord "rue".toList rest
  | 'f' :: rest => readWord "alse".toList rest
  | '"' :: rest => skipTextInside rest
  | c :: rest => if c = '-' ∨ c.isDigit then skipNumber (c :: rest) else .error .malformed
  | [] => .error .endsEarly

/-- Passes over the rest of a value inside the open brackets, the innermost first; `fuel` bounds
the number of parts. -/
def skipRest : (fuel : Nat) → List Bracket → Place → List Char → Except Problem (List Char)
  | 0, _, _, _ => .error .endsEarly
  | fuel + 1, brackets, place, text =>
    match place, brackets, skipSpace text with
    | .next, [], _ => .ok text
    | _, _, [] => .error .endsEarly
    | .value, _, '[' :: rest =>
      match skipSpace rest with
      | ']' :: rest => skipRest fuel brackets .next rest
      | rest => skipRest fuel (.array :: brackets) .value rest
    | .value, _, '{' :: rest =>
      match skipSpace rest with
      | '}' :: rest => skipRest fuel brackets .next rest
      | rest => skipRest fuel (.object :: brackets) .key rest
    | .value, _, text => do skipRest fuel brackets .next (← skipScalar text)
    | .key, _, '"' :: rest => do
      match skipSpace (← skipTextInside rest) with
      | [] => .error .endsEarly
      | ':' :: rest => skipRest fuel brackets .value rest
      | _ => .error .malformed
    | .next, .array :: _, ',' :: rest => skipRest fuel brackets .value rest
    | .next, .object :: _, ',' :: rest => skipRest fuel brackets .key rest
    | .next, .array :: outer, ']' :: rest => skipRest fuel outer .next rest
    | .next, .object :: outer, '}' :: rest => skipRest fuel outer .next rest
    | _, _, _ => .error .malformed

/-- Passes over one value. -/
def skipValue (text : List Char) : Except Problem (List Char) :=
  skipRest (text.length + 1) [] .value text

end TablePlan.Json

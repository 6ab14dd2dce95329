import TablePlan.Json.Record

/-!
# Choices

A choice between cases is written as the name of the case, or, if the case has a content, as an
object with one member: the name of the case and its content.  An object of this form is read for
a case without a content as well, the content being null.
-/

namespace TablePlan.Json

/-- What belongs to a case besides its name. -/
inductive Content (α : Type) where
  | nothing (value : α)
  | value (read : Reader α)

/-- A case of a choice. -/
structure Case (α : Type) where
  name : String
  content : Content α

namespace Case

/-- A case that is its name. -/
def bare {α : Type} (name : String) (value : α) : Case α :=
  { name, content := .nothing value }

/-- A case with a content. -/
def holding {α β : Type} (name : String) (codec : Codec β) (make : β → α) : Case α :=
  { name
    content := .value fun s => do
      let (value, s) ← codec.read s
      return (make value, s) }

/-- A case whose content is a record. -/
def record {α : Type} {types : List Type} (name : String) (fields : Fields types)
    (make : Values types → α) : Case α :=
  holding name (Json.record fields) make

end Case

/-- The case of a name. -/
def caseOf {α : Type} (cases : List (Case α)) (name : String) : Except Problem (Content α) :=
  match cases.find? fun choice => choice.name = name with
  | some choice => .ok choice.content
  | none => .error .wrongData

/-- Reads a choice.  A value that is neither a string nor an object is malformed, and so is an
object that does not begin with a name or has a second member.  A name of no case is noticed
before the colon. -/
def readChoice {α : Type} (cases : List (Case α)) : Reader α := fun s =>
  match skipSpace s with
  | [] => .error .endsEarly
  | '{' :: rest => do
    let (name, rest) ← readName rest
    let content ← caseOf cases name
    let rest ← readColon rest
    let (value, rest) ←
      match content with
      | .nothing value => do
        let (_, rest) ← null.read rest
        pure (value, rest)
      | .value read => read rest
    return (value, ← closeObject rest)
  | '"' :: rest => do
    let (name, rest) ← readTextInside rest
    match ← caseOf cases name with
    | .nothing value => return (value, rest)
    | .value _ => .error .wrongData
  | _ => .error .malformed

/-- Writes a case that is its name. -/
def writeBare (name : String) : List Char :=
  writeText name.toList

/-- Writes a case with a content. -/
def writeHolding (name : String) (content : List Char) : List Char :=
  '{' :: (writeText name.toList ++ ':' :: content ++ ['}'])

/-- A choice between names. -/
def names {α : Type} (name : α → String) (values : List α) : Codec α where
  read := readChoice (values.map fun value => .bare (name value) value)
  write value := writeBare (name value)

end TablePlan.Json

import TablePlan.Json.Codec
import TablePlan.Json.Skip

/-!
# Records

A record is an object with one member a field, in any order; members of other names are passed
over.  It may also be given as an array of its fields in their order.  A field that comes twice is
noticed at its second name, a missing one at the end of the object.
-/

namespace TablePlan.Json

/-- A field of a record.  `absent` is its value in an object without it, and `beyondEnd` its value
in an array that is too short for it. -/
structure Field (α : Type) where
  name : String
  codec : Codec α
  absent : Option α := none
  beyondEnd : Option α := none

/-- A field whose value may be missing. -/
def Field.orNull {α : Type} (name : String) (codec : Codec α) : Field (Option α) :=
  { name, codec := codec.orNull, absent := some none }

/-- A field that has a value when it is not given. -/
def Field.withDefault {α : Type} (name : String) (codec : Codec α) (value : α) : Field α :=
  { name, codec, absent := some value, beyondEnd := some value }

/-- The values of the fields of a record. -/
@[reducible] def Values : List Type → Type
  | [] => Unit
  | α :: types => α × Values types

/-- The values of the fields as far as they are known. -/
@[reducible] def Slots : List Type → Type
  | [] => Unit
  | α :: types => Option α × Slots types

/-- The fields of a record, in order. -/
inductive Fields : List Type → Type 1 where
  | nil : Fields []
  | cons {α : Type} {types : List Type} (field : Field α) (rest : Fields types) :
    Fields (α :: types)

/-- What a member of an object is to a record, given the fields known before it. -/
inductive Member (slots : Type) where
  | unknown
  | repeated
  | value (read : Reader slots)

namespace Fields

/-- No field is known yet. -/
def empty : {types : List Type} → Fields types → Slots types
  | _, .nil => ()
  | _, .cons _ rest => (none, rest.empty)

/-- The member of a name. -/
def member (name : String) : {types : List Type} → Fields types → Slots types →
    Member (Slots types)
  | _, .nil, _ => .unknown
  | _, .cons field rest, (slot, slots) =>
    if field.name = name then
      if slot.isSome then .repeated
      else .value fun s => do
        let (value, s) ← field.codec.read s
        return ((some value, slots), s)
    else
      match rest.member name slots with
      | .unknown => .unknown
      | .repeated => .repeated
      | .value read => .value fun s => do
        let (slots, s) ← read s
        return ((slot, slots), s)

/-- The values of all fields at the end of an object. -/
def complete : {types : List Type} → Fields types → Slots types → Except Problem (Values types)
  | _, .nil, _ => .ok ()
  | _, .cons field rest, (slot, slots) =>
    match slot.or field.absent with
    | none => .error .wrongData
    | some value => do return (value, ← rest.complete slots)

/-- Reads the fields as elements of an array, without its closing bracket. -/
def readInOrder (first : Bool) : {types : List Type} → Fields types → Reader (Values types)
  | _, .nil, s => .ok ((), s)
  | _, .cons field rest, s => do
    match ← nextElement? first s with
    | none =>
      match field.beyondEnd with
      | none => .error .wrongData
      | some value =>
        let (values, s) ← rest.readInOrder first s
        return ((value, values), s)
    | some element =>
      let (value, s) ← field.codec.read element
      let (values, s) ← rest.readInOrder false s
      return ((value, values), s)

/-- The members of an object with some values. -/
def write : {types : List Type} → Fields types → Values types → List (List Char)
  | _, .nil, _ => []
  | _, .cons field rest, (value, values) =>
    (writeText field.name.toList ++ ':' :: field.codec.write value) :: rest.write values

end Fields

/-- Reads the name of a member, where nothing but a string may stand. -/
def readName : Reader String := fun s =>
  match skipSpace s with
  | [] => .error .endsEarly
  | '"' :: rest => readTextInside rest
  | _ => .error .malformed

/-- Reads the name of the next member of an object; `none` when the closing bracket is next. -/
def nextName? (first : Bool) (s : List Char) : Except Problem (Option (String × List Char)) :=
  match skipSpace s with
  | [] => .error .endsEarly
  | '}' :: _ => .ok none
  | c :: rest =>
    if first then do return some (← readName (c :: rest))
    else if c = ',' then do return some (← readName rest)
    else .error .malformed

/-- Passes over the colon behind the name of a member. -/
def readColon (s : List Char) : Except Problem (List Char) :=
  match skipSpace s with
  | [] => .error .endsEarly
  | ':' :: rest => .ok rest
  | _ => .error .malformed

/-- Passes over the closing bracket of an object. -/
def closeObject (s : List Char) : Except Problem (List Char) :=
  match skipSpace s with
  | [] => .error .endsEarly
  | '}' :: rest => .ok rest
  | _ => .error .malformed

/-- Reads members up to the closing bracket; `fuel` bounds their number. -/
def readMembers {types : List Type} (fields : Fields types) :
    (fuel : Nat) → (first : Bool) → Slots types → Reader (Slots types)
  | 0, _, _, _ => .error .endsEarly
  | fuel + 1, first, slots, s => do
    match ← nextName? first s with
    | none => return (slots, ← closeObject s)
    | some (name, s) =>
      match fields.member name slots with
      | .repeated => .error .wrongData
      | .unknown =>
        let s ← skipValue (← readColon s)
        readMembers fields fuel false slots s
      | .value read =>
        let (slots, s) ← read (← readColon s)
        readMembers fields fuel false slots s

/-- Records with some fields. -/
def record {types : List Type} (fields : Fields types) : Codec (Values types) where
  read s :=
    match skipSpace s with
    | '{' :: rest => do
      let (slots, rest) ← readMembers fields (rest.length + 1) true fields.empty rest
      return (← fields.complete slots, rest)
    | '[' :: rest => do
      let (values, rest) ← fields.readInOrder true rest
      return (values, ← closeArray rest)
    | other => .error (wrongKind other)
  write values := '{' :: (commaSeparated (fields.write values) ++ ['}'])

/-- Pairs, as arrays of two elements. -/
def pair {α β : Type} (first : Codec α) (second : Codec β) : Codec (α × β) where
  read s :=
    match skipSpace s with
    | '[' :: rest => do
      let fields : Fields [α, β] :=
        .cons { name := "", codec := first } (.cons { name := "", codec := second } .nil)
      let ((a, b, _), rest) ← fields.readInOrder true rest
      return ((a, b), ← closeArray rest)
    | other => .error (wrongKind other)
  write value := '[' :: (first.write value.1 ++ ',' :: second.write value.2 ++ [']'])

end TablePlan.Json

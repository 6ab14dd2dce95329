/-!
# Indexes and keys over columns
-/

namespace TablePlan

/-- What an index is for. -/
inductive IndexKind where
  | index
  | unique
  | primary
  | fullText
  deriving DecidableEq, Repr

/-- The noun for an index of this kind in a message. -/
def IndexKind.noun : IndexKind → String
  | .index => "index"
  | .unique => "unique index"
  | .primary => "primary key"
  | .fullText => "full-text index"

/-- The access method of an index. -/
inductive IndexMethod where
  | btree
  | hash
  | gist
  | gin
  deriving DecidableEq, Repr

/-- The keyword of the method. -/
def IndexMethod.keyword : IndexMethod → String
  | .btree => "BTREE"
  | .hash => "HASH"
  | .gist => "GIST"
  | .gin => "GIN"

/-- An index or key over some columns of the table.  One without a name gets the conventional
name. -/
structure Index where
  kind : IndexKind
  columns : List String
  name : Option String := none
  method : Option IndexMethod := none
  deriving DecidableEq, Repr

/-- A property stated of an index after its columns. -/
inductive IndexModifier where
  | named (name : String)
  | using (method : IndexMethod)
  deriving DecidableEq, Repr

/-- The last word on a property counts. -/
def IndexModifier.apply : IndexModifier → Index → Index
  | .named name, index => { index with name := some name }
  | .using method, index => { index with method := some method }

/-- An index with its properties stated in order. -/
def Index.declare (kind : IndexKind) (columns : List String) (modifiers : List IndexModifier) :
    Index :=
  modifiers.foldl (fun index modifier => modifier.apply index) { kind, columns }

end TablePlan

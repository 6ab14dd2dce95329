import TablePlan.Session.Request

/-!
# Journals

What happens while a session works: the events that it notes, and the calls to the database.
-/

namespace TablePlan

/-- Something that a session notes. -/
inductive Event where
  | began (dialect : Dialect) (request : Request)
  | executing (sql : String)
  | skipped (sql : String)
  | checkingTable (sql : String)
  | checkingColumn (sql : String)
  deriving DecidableEq, Repr

/-- How much an entry of the log matters. -/
inductive LogLevel where
  | info
  | debug
  deriving DecidableEq, Repr

/-- The word for a level. -/
def LogLevel.word : LogLevel → String
  | .info => "INFO"
  | .debug => "DEBUG"

/-- An entry of the log: a message, and the values that it is about under their names. -/
structure LogEntry where
  level : LogLevel
  message : String
  fields : List (String × String)
  deriving DecidableEq, Repr

/-- The entry for an event. -/
def Event.entry : Event → LogEntry
  | .began dialect request =>
    ⟨.info, request.title, request.subject ++ [("dialect", dialect.name)]⟩
  | .executing sql => ⟨.debug, "Executing SQL", [("sql", sql)]⟩
  | .skipped sql => ⟨.info, "Dry run, statement not executed", [("sql", sql)]⟩
  | .checkingTable sql => ⟨.debug, "Checking table existence", [("sql", sql)]⟩
  | .checkingColumn sql => ⟨.debug, "Checking column existence", [("sql", sql)]⟩

/-- What has happened: the events, how many calls the database got, the SQL of these calls, and the
SQL of those that it accepted. -/
structure Journal where
  calls : Nat := 0
  attempted : List String := []
  accepted : List String := []
  events : List Event := []
  deriving DecidableEq, Repr

namespace Journal

/-- One more event. -/
def note (journal : Journal) (event : Event) : Journal :=
  { journal with events := journal.events ++ [event] }

/-- One more call, accepted. -/
def accept (journal : Journal) (sql : String) : Journal :=
  { journal with
    calls := journal.calls + 1
    attempted := journal.attempted ++ [sql]
    accepted := journal.accepted ++ [sql] }

/-- One more call, rejected. -/
def reject (journal : Journal) (sql : String) : Journal :=
  { journal with
    calls := journal.calls + 1
    attempted := journal.attempted ++ [sql] }

end Journal

end TablePlan

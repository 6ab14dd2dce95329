import TablePlan.Compile.Existence
import TablePlan.Session.Journal
import TablePlan.Settings

/-!
# Sessions

A session carries requests out on a transaction: statement by statement, up to the first one that
the database rejects.  A dry run notes the statements and executes none; questions are asked in a
dry run too.
-/

namespace TablePlan

/-- A transaction, by what it answers to its calls in order: to the `n`-th call, with its SQL. -/
structure Transaction where
  execute : Nat → String → Except String Unit
  hasRow : Nat → String → Except String Bool

namespace Session

/-- Executes statements in order, up to the first one that is rejected. -/
def executeAll (dryRun : Bool) (transaction : Transaction) :
    List String → Journal → Except SessionError Unit × Journal
  | [], journal => (.ok (), journal)
  | sql :: rest, journal =>
    let journal := journal.note (.executing sql)
    if dryRun then executeAll dryRun transaction rest (journal.note (.skipped sql))
    else
      match transaction.execute journal.calls sql with
      | .ok () => executeAll dryRun transaction rest (journal.accept sql)
      | .error message => (.error (.database message), journal.reject sql)

/-- Carries out a request.  Nothing is executed unless all of it compiles. -/
def run (settings : Settings) (transaction : Transaction) (request : Request) (journal : Journal) :
    Except SessionError Unit × Journal :=
  let journal := journal.note (.began settings.dialect request)
  match request.sql settings.dialect with
  | .error error => (.error error, journal)
  | .ok statements => executeAll settings.dryRun transaction statements journal

/-- Asks a question. -/
def ask (transaction : Transaction) (event : String → Event) (sql : String) (journal : Journal) :
    Except SessionError Bool × Journal :=
  let journal := journal.note (event sql)
  match transaction.hasRow journal.calls sql with
  | .ok found => (.ok found, journal.accept sql)
  | .error message => (.error (.database message), journal.reject sql)

/-- Whether a table exists. -/
def hasTable (settings : Settings) (transaction : Transaction) (table : String)
    (journal : Journal) : Except SessionError Bool × Journal :=
  match checkTableName settings.dialect table with
  | .error error => (.error error, journal)
  | .ok () =>
    let query := Compile.tableQuery settings.dialect table
    ask transaction .checkingTable (query.text settings.dialect) journal

/-- Whether a table has a column. -/
def hasColumn (settings : Settings) (transaction : Transaction) (table column : String)
    (journal : Journal) : Except SessionError Bool × Journal :=
  match checkTableName settings.dialect table with
  | .error error => (.error error, journal)
  | .ok () =>
    if Text.isBlank column then (.error (.compile (.emptyColumnName table)), journal)
    else
      let query := Compile.columnQuery settings.dialect table column
      ask transaction .checkingColumn (query.text settings.dialect) journal

end Session

end TablePlan

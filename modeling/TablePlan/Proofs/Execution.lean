import Mathlib.Data.List.Basic
import TablePlan.Session

/-!
# What a session executes

A request whose names pass and whose plan compiles becomes a list of statements.  A dry run only
notes them; every other run hands them to the database one after the other, up to the first one that
is rejected.  Main statement: this is what happens for every request and however the database
answers, and nothing is executed of a request that does not pass (`run_executes_in_order`).
-/

namespace TablePlan

/-! ## How a transaction answers -/

namespace Transaction

variable (transaction : Transaction)

/-- Statements that are executed in order, the first of them by the call with the number `first`, are
all accepted. -/
def AcceptsFrom (first : Nat) (statements : List String) : Prop :=
  ∀ i (inside : i < statements.length), transaction.execute (first + i) statements[i] = .ok ()

/-- What comes of executing statements in order: the statements that the database gets, which are all
of them or those up to the first one that it rejects, and the result, which is what the database says
then. -/
inductive Executes (first : Nat) (statements : List String) :
    List String → Except SessionError Unit → Prop
  | complete (accepted : transaction.AcceptsFrom first statements) :
      Executes first statements statements (.ok ())
  | stopped {before after : List String} {sql message : String}
      (split : statements = before ++ sql :: after)
      (accepted : transaction.AcceptsFrom first before)
      (rejected : transaction.execute (first + before.length) sql = .error message) :
      Executes first statements (before ++ [sql]) (.error (.database message))

variable {transaction} {first : Nat} {sql : String} {statements attempted : List String}
  {result : Except SessionError Unit}

theorem acceptsFrom_nil : transaction.AcceptsFrom first [] := by
  intro i inside
  cases inside

theorem acceptsFrom_cons : transaction.AcceptsFrom first (sql :: statements) ↔
    transaction.execute first sql = .ok () ∧ transaction.AcceptsFrom (first + 1) statements := by
  have shift (i : Nat) : first + (i + 1) = first + 1 + i := by omega
  constructor
  · intro accepted
    refine ⟨accepted 0 (Nat.zero_lt_succ _), fun i inside => ?_⟩
    rw [← shift]
    exact accepted (i + 1) (Nat.succ_lt_succ inside)
  · rintro ⟨accepted, others⟩ i inside
    cases i with
    | zero => exact accepted
    | succ i =>
      rw [shift]
      exact others i (Nat.lt_of_succ_lt_succ inside)

/-- An accepted statement is followed by the execution of the others. -/
theorem Executes.cons (accepted : transaction.execute first sql = .ok ())
    (others : transaction.Executes (first + 1) statements attempted result) :
    transaction.Executes first (sql :: statements) (sql :: attempted) result := by
  cases others with
  | complete all => exact .complete (acceptsFrom_cons.mpr ⟨accepted, all⟩)
  | @stopped before after last message split all rejected =>
    have split : sql :: statements = (sql :: before) ++ last :: after := by
      rw [split]
      rfl
    refine .stopped split (acceptsFrom_cons.mpr ⟨accepted, all⟩) ?_
    rw [List.length_cons, Nat.add_comm before.length, ← Nat.add_assoc]
    exact rejected

/-- The result is good exactly when no statement is rejected. -/
theorem Executes.eq_ok_iff (execution : transaction.Executes first statements attempted result) :
    result = .ok () ↔ transaction.AcceptsFrom first statements := by
  cases execution with
  | complete all => exact ⟨fun _ => all, fun _ => rfl⟩
  | @stopped before after sql message split _ rejected =>
    refine ⟨nofun, fun all => ?_⟩
    have inside : before.length < statements.length := by
      rw [split, List.length_append, List.length_cons]
      omega
    have answer := all before.length inside
    have last : statements[before.length] = sql := by simp [split]
    rw [last, rejected] at answer
    cases answer

/-- Where no statement is rejected, the database gets them all. -/
theorem Executes.eq_of_acceptsFrom
    (execution : transaction.Executes first statements attempted result)
    (all : transaction.AcceptsFrom first statements) : attempted = statements := by
  have good := execution.eq_ok_iff.mpr all
  cases execution with
  | complete => rfl
  | stopped => cases good

end Transaction

/-! ## What the log says -/

/-- The SQL of an entry that announces an execution. -/
def LogEntry.execution? (entry : LogEntry) : Option String :=
  if entry.level = .debug ∧ entry.message = "Executing SQL" then entry.fields.lookup "sql" else none

namespace Journal

/-- The SQL of the executions that the log announces, in order. -/
def announced (journal : Journal) : List String :=
  journal.events.filterMap fun event => event.entry.execution?

theorem announced_note (journal : Journal) (event : Event) :
    (journal.note event).announced = journal.announced ++ event.entry.execution?.toList := by
  simp only [announced, note, List.filterMap_append]
  cases found : event.entry.execution? <;> simp [found]

theorem announced_executing (journal : Journal) (sql : String) :
    (journal.note (.executing sql)).announced = journal.announced ++ [sql] :=
  announced_note journal (.executing sql)

theorem announced_skipped (journal : Journal) (sql : String) :
    (journal.note (.skipped sql)).announced = journal.announced := by
  rw [announced_note]
  exact List.append_nil _

theorem announced_began (journal : Journal) (dialect : Dialect) (request : Request) :
    (journal.note (.began dialect request)).announced = journal.announced := by
  rw [announced_note]
  exact List.append_nil _

/-- After some more calls: the database got these statements, and each was announced. -/
structure Follows (before after : Journal) (statements : List String) : Prop where
  calls : after.calls = before.calls + statements.length
  attempted : after.attempted = before.attempted ++ statements
  announced : after.announced = before.announced ++ statements

/-- One more call in front of the others. -/
theorem Follows.cons {journal next after : Journal} {sql : String} {others : List String}
    (first : Follows journal next [sql]) (rest : Follows next after others) :
    Follows journal after (sql :: others) := by
  constructor
  · simp only [rest.calls, first.calls, List.length_cons, List.length_nil]
    omega
  · rw [rest.attempted, first.attempted, List.append_assoc]
    rfl
  · rw [rest.announced, first.announced, List.append_assoc]
    rfl

theorem follows_accept (journal : Journal) (sql : String) :
    Follows journal ((journal.note (.executing sql)).accept sql) [sql] :=
  ⟨rfl, rfl, announced_executing journal sql⟩

theorem follows_reject (journal : Journal) (sql : String) :
    Follows journal ((journal.note (.executing sql)).reject sql) [sql] :=
  ⟨rfl, rfl, announced_executing journal sql⟩

/-- A dry run has announced statements and made no call. -/
structure Announces (before after : Journal) (statements : List String) : Prop where
  calls : after.calls = before.calls
  attempted : after.attempted = before.attempted
  accepted : after.accepted = before.accepted
  announced : after.announced = before.announced ++ statements

end Journal

/-! ## Requests -/

namespace Request

/-- The names that a request gives to tables, in the order in which they are checked. -/
def names : Request → List String
  | .create table _ | .createIfNotExists table _ | .alter table _ | .drop table
  | .dropIfExists table => [table]
  | .rename old new => [new, old]

/-- The plan that a request describes, whatever its names are. -/
def described : Request → Plan
  | .create table steps => Plan.build table (.create :: steps)
  | .createIfNotExists table steps => Plan.build table (.createIfNotExists :: steps)
  | .alter table steps => Plan.build table steps
  | .drop table => Plan.build table [.drop]
  | .dropIfExists table => Plan.build table [.dropIfExists]
  | .rename old new => Plan.build old [.rename new]

/-- A request becomes its plan when all its names pass. -/
theorem plan_eq (dialect : Dialect) (request : Request) : request.plan dialect =
    request.names.forM (checkTableName dialect) >>= fun _ => .ok request.described := by
  have single (table : String) : [table].forM (checkTableName dialect) =
      checkTableName dialect table := by
    show (checkTableName dialect table >>= fun _ => .ok ()) = checkTableName dialect table
    cases checkTableName dialect table <;> rfl
  cases request with
  | rename old new =>
    show _ = (checkTableName dialect new >>= fun _ => [old].forM (checkTableName dialect)) >>= _
    rw [single, bind_assoc]
    rfl
  | _ =>
    rw [names, single]
    rfl

theorem sql_of_refused {dialect : Dialect} {request : Request} {error : SessionError}
    (refused : request.names.forM (checkTableName dialect) = .error error) :
    request.sql dialect = .error error := by
  rw [sql, plan_eq, refused]
  rfl

theorem sql_of_passed {dialect : Dialect} {request : Request}
    (passed : request.names.forM (checkTableName dialect) = .ok ()) :
    request.sql dialect = (request.described.toSql dialect).mapError .compile := by
  rw [sql, plan_eq, passed]
  rfl

end Request

/-! ## Runs -/

namespace Session

open Journal (Follows Announces)

variable (transaction : Transaction)

/-- A dry run announces all statements and executes none. -/
theorem executeAll_dry (statements : List String) (journal : Journal) :
    (executeAll true transaction statements journal).1 = .ok () ∧
      Announces journal (executeAll true transaction statements journal).2 statements := by
  induction statements generalizing journal with
  | nil => exact ⟨rfl, rfl, rfl, rfl, (List.append_nil _).symm⟩
  | cons sql rest ih =>
    obtain ⟨good, calls, attempted, accepted, announced⟩ :=
      ih ((journal.note (.executing sql)).note (.skipped sql))
    refine ⟨good, calls, attempted, accepted, announced.trans ?_⟩
    rw [Journal.announced_skipped, Journal.announced_executing, List.append_assoc]
    rfl

/-- Every other run executes the statements in order, up to the first one that is rejected, and
announces each. -/
theorem executeAll_executes (statements : List String) (journal : Journal) :
    ∃ attempted,
      transaction.Executes journal.calls statements attempted
        (executeAll false transaction statements journal).1 ∧
      Follows journal (executeAll false transaction statements journal).2 attempted := by
  induction statements generalizing journal with
  | nil =>
    exact ⟨[], .complete Transaction.acceptsFrom_nil,
      rfl, (List.append_nil _).symm, (List.append_nil _).symm⟩
  | cons sql rest ih =>
    cases answer : transaction.execute journal.calls sql with
    | error message =>
      have run : executeAll false transaction (sql :: rest) journal =
          (.error (.database message), (journal.note (.executing sql)).reject sql) := by
        simp only [executeAll, Journal.note, answer]
        rfl
      rw [run]
      have split : sql :: rest = [] ++ sql :: rest := rfl
      exact ⟨[sql], .stopped split Transaction.acceptsFrom_nil answer,
        Journal.follows_reject journal sql⟩
    | ok accepted =>
      have run : executeAll false transaction (sql :: rest) journal =
          executeAll false transaction rest ((journal.note (.executing sql)).accept sql) := by
        simp only [executeAll, Journal.note, answer]
        rfl
      obtain ⟨attempted, execution, follows⟩ := ih ((journal.note (.executing sql)).accept sql)
      rw [run]
      exact ⟨sql :: attempted, .cons answer execution,
        (Journal.follows_accept journal sql).cons follows⟩

/-- A dry run announces what a run executes on a database that rejects nothing. -/
theorem announced_dry_run (settings : Settings) (request : Request) {accepting : Transaction}
    (accepts : ∀ n sql, accepting.execute n sql = .ok ()) :
    (run { settings with dryRun := false } accepting request {}).2.attempted =
      (run { settings with dryRun := true } transaction request {}).2.announced := by
  have start := Journal.announced_began {} settings.dialect request
  unfold run
  cases request.sql settings.dialect with
  | error error => exact start.symm
  | ok statements =>
    obtain ⟨attempted, execution, follows⟩ := executeAll_executes accepting statements
      (Journal.note {} (.began settings.dialect request))
    obtain ⟨_, announces⟩ := executeAll_dry transaction statements
      (Journal.note {} (.began settings.dialect request))
    have all := execution.eq_of_acceptsFrom fun i _ => accepts _ _
    refine follows.attempted.trans (Eq.trans ?_ announces.announced.symm)
    rw [start, all]
    rfl

/-- What a session does with a request, whatever the request is and however the database answers.

* If a name does not pass, or if the plan does not compile, the first such fault is the result, and
  nothing happens but the note that work began.
* If all passes, a dry run announces every statement, executes none, and succeeds.
* Every other run executes the statements in order up to the first one that is rejected, announces
  each one that it executes, and succeeds exactly when none is rejected.

So a dry run announces what a run executes on a database that rejects nothing. -/
theorem run_executes_in_order (settings : Settings) (transaction : Transaction) (request : Request)
    (journal : Journal) :
    (match request.names.forM (checkTableName settings.dialect),
        request.described.toSql settings.dialect with
      | .error error, _ =>
        run settings transaction request journal =
          (.error error, journal.note (.began settings.dialect request))
      | .ok (), .error fault =>
        run settings transaction request journal =
          (.error (.compile fault), journal.note (.began settings.dialect request))
      | .ok (), .ok statements =>
        if settings.dryRun then
          (run settings transaction request journal).1 = .ok () ∧
            Announces journal (run settings transaction request journal).2 statements
        else
          ∃ attempted,
            transaction.Executes journal.calls statements attempted
              (run settings transaction request journal).1 ∧
            ((run settings transaction request journal).1 = .ok () ↔
              transaction.AcceptsFrom journal.calls statements) ∧
            Follows journal (run settings transaction request journal).2 attempted) ∧
    ∀ accepting : Transaction, (∀ n sql, accepting.execute n sql = .ok ()) →
      (run { settings with dryRun := false } accepting request {}).2.attempted =
        (run { settings with dryRun := true } transaction request {}).2.announced := by
  refine ⟨?_, fun accepting accepts => announced_dry_run transaction settings request accepts⟩
  have start := Journal.announced_began journal settings.dialect request
  cases names : request.names.forM (checkTableName settings.dialect) with
  | error error =>
    simp only [run, Request.sql_of_refused names]
  | ok passed =>
    have sql := Request.sql_of_passed names
    cases compiled : request.described.toSql settings.dialect with
    | error fault =>
      rw [compiled] at sql
      simp only [run, sql, Except.mapError]
    | ok statements =>
      rw [compiled] at sql
      have runs : run settings transaction request journal = executeAll settings.dryRun transaction
          statements (journal.note (.began settings.dialect request)) := by
        simp only [run, sql, Except.mapError]
      rw [runs]
      cases settings.dryRun with
      | true =>
        obtain ⟨good, calls, attempted, accepted, announced⟩ :=
          executeAll_dry transaction statements (journal.note (.began settings.dialect request))
        exact ⟨good, calls, attempted, accepted, by rw [announced, start]⟩
      | false =>
        obtain ⟨attempted, execution, calls, attempts, announced⟩ :=
          executeAll_executes transaction statements
            (journal.note (.began settings.dialect request))
        exact ⟨attempted, execution, execution.eq_ok_iff, calls, attempts, by rw [announced, start]⟩

/-- The second statement is rejected; where none is, both are executed, as a dry run announces. -/
theorem run_executes_in_order_rejected :
    let rejecting : Transaction :=
      { execute := fun n _ => if n = 1 then .error "disk full" else .ok ()
        hasRow := fun _ _ => .ok false }
    let accepting : Transaction := { execute := fun _ _ => .ok (), hasRow := fun _ _ => .ok false }
    let request : Request := .create "t" [.column "a" .integer [.unique]]
    (∃ attempted,
      rejecting.Executes 0
        ["CREATE TABLE \"t\" (\"a\" INTEGER NOT NULL)",
          "CREATE UNIQUE INDEX \"uk_t_a\" ON \"t\" (\"a\")"]
        attempted (run { dialect := .sqlite } rejecting request {}).1 ∧
      (run { dialect := .sqlite } rejecting request {}).1 ≠ .ok () ∧
      Follows {} (run { dialect := .sqlite } rejecting request {}).2 attempted) ∧
    (∀ n sql, accepting.execute n sql = .ok ()) ∧
    (run { dialect := .sqlite } accepting request {}).2.attempted =
      (run { dialect := .sqlite, dryRun := true } rejecting request {}).2.announced := by
  intro rejecting accepting request
  have accepts : ∀ n sql, accepting.execute n sql = .ok () := fun _ _ => rfl
  have names : request.names.forM (checkTableName .sqlite) = .ok () := by decide +kernel
  have compiled : request.described.toSql .sqlite =
      .ok ["CREATE TABLE \"t\" (\"a\" INTEGER NOT NULL)",
        "CREATE UNIQUE INDEX \"uk_t_a\" ON \"t\" (\"a\")"] := by decide +kernel
  obtain ⟨runs, announced⟩ := run_executes_in_order { dialect := .sqlite } rejecting request {}
  simp only [names, compiled] at runs
  obtain ⟨attempted, execution, good, follows⟩ := runs
  refine ⟨⟨attempted, execution, ?_, follows⟩, accepts, announced accepting accepts⟩
  intro same
  cases good.mp same 1 (by decide)

end Session

end TablePlan

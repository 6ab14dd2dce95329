import TablePlan.Compile
import TablePlan.Plan.Step
import TablePlan.Session.Error

/-!
# Requests

What a session can be asked to do to a table.  The name of the table is checked first, and the
request becomes a plan only if it passes.
-/

namespace TablePlan

/-- Something to be done to a table. -/
inductive Request where
  | create (table : String) (steps : List Step)
  | createIfNotExists (table : String) (steps : List Step)
  | alter (table : String) (steps : List Step)
  | drop (table : String)
  | dropIfExists (table : String)
  | rename (old new : String)
  deriving DecidableEq, Repr

/-- The name of a table is not blank, and has at most one dot; with one, both sides are not blank
and the dialect has schemas. -/
def checkTableName (dialect : Dialect) (table : String) : Except SessionError Unit :=
  if Text.isBlank table then .error .emptyTableName
  else
    match Name.segments table with
    | [_] => .ok ()
    | segments =>
      if !dialect.supportsSchemas then .error (.schemaNotSupported dialect table)
      else
        match segments with
        | [schema, name] =>
          if Text.isBlank schema || Text.isBlank name then .error (.malformedTableName table)
          else .ok ()
        | _ => .error (.malformedTableName table)

/-- The statements of a plan as text. -/
def Plan.sessionSql (dialect : Dialect) (plan : Plan) : Except SessionError (List String) :=
  (plan.toSql dialect).mapError .compile

namespace Request

/-- The plan of a request.  A new name is checked before the old one. -/
def plan (dialect : Dialect) : Request → Except SessionError Plan
  | .create table steps => do
    checkTableName dialect table
    return Plan.build table (.create :: steps)
  | .createIfNotExists table steps => do
    checkTableName dialect table
    return Plan.build table (.createIfNotExists :: steps)
  | .alter table steps => do
    checkTableName dialect table
    return Plan.build table steps
  | .drop table => do
    checkTableName dialect table
    return Plan.build table [.drop]
  | .dropIfExists table => do
    checkTableName dialect table
    return Plan.build table [.dropIfExists]
  | .rename old new => do
    checkTableName dialect new
    checkTableName dialect old
    return Plan.build old [.rename new]

/-- The statements of a request as text. -/
def sql (dialect : Dialect) (request : Request) : Except SessionError (List String) := do
  (← request.plan dialect).sessionSql dialect

/-- What is noted when work on the request begins. -/
def title : Request → String
  | .create .. => "Creating table"
  | .createIfNotExists .. => "Creating table if not exists"
  | .alter .. => "Altering table"
  | .drop _ => "Dropping table"
  | .dropIfExists _ => "Dropping table if exists"
  | .rename .. => "Renaming table"

/-- Which table the request is about. -/
def subject : Request → List (String × String)
  | .create table _ | .createIfNotExists table _ | .alter table _ | .drop table
  | .dropIfExists table => [("table", table)]
  | .rename old new => [("from", old), ("to", new)]

end Request

end TablePlan

import TablePlan.Dialect
import TablePlan.Json.Record

/-!
# Settings

What a session is configured with: the dialect, and whether it runs dry.
-/

namespace TablePlan

open Json (Codec Field Fields)

/-- Dialects by any of their identifiers, written by the canonical one. -/
def Dialect.codec : Codec Dialect :=
  Json.text.filterMap Dialect.parse? Dialect.name

/-- The settings of a session.  A dry run executes nothing. -/
structure Settings where
  dialect : Dialect
  dryRun : Bool := false
  deriving DecidableEq, Repr

/-- Why settings could not be loaded from a file. -/
inductive LoadError where
  | fileNotFound
  | notText
  | problem (problem : Json.Problem)
  deriving DecidableEq, Repr

namespace Settings

/-- The fields of settings; a run is not dry unless that is said. -/
def fields : Fields [Dialect, Bool] :=
  .cons { name := "dialect", codec := Dialect.codec } <|
  .cons (.withDefault "dry_run" Json.boolean false) .nil

/-- Settings as JSON. -/
def codec : Codec Settings :=
  (Json.record fields).map (fun (dialect, dryRun, _) => { dialect, dryRun })
    (fun settings => (settings.dialect, settings.dryRun, ()))

/-- The settings that a file holds, given the bytes of the file if there is one. -/
def ofFile (bytes : Option ByteArray) : Except LoadError Settings :=
  match bytes with
  | none => .error .fileNotFound
  | some bytes =>
    match String.fromUTF8? bytes with
    | none => .error .notText
    | some text => (codec.ofText text).mapError .problem

end Settings

end TablePlan

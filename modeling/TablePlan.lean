import TablePlan.Plan.Json
import TablePlan.Session
import TablePlan.Proofs.Agreement
import TablePlan.Proofs.Containment
import TablePlan.Proofs.DeclaredOnce
import TablePlan.Proofs.EscapedLiteral
import TablePlan.Proofs.PrimaryKeys
import TablePlan.Proofs.WellFormed
import TablePlan.Proofs.GuardedCreation
import TablePlan.Proofs.Json.Numbers
import TablePlan.Proofs.Json.Sequences
import TablePlan.Proofs.RoundTrip
import TablePlan.Proofs.Execution
import TablePlan.Proofs.StatementOrder
import TablePlan.Proofs.InlineForeignKeys
import TablePlan.Proofs.Uniqueness
import TablePlan.Proofs.CommandList
import TablePlan.Proofs.Renaming
import TablePlan.Proofs.GeneratedNames
import TablePlan.Proofs.UnreadParts
import TablePlan.Proofs.TableNames
import TablePlan.Proofs.BlankNames
import TablePlan.Proofs.Parts
import TablePlan.Proofs.Enumerations
import TablePlan.Proofs.BlankTable
import TablePlan.Proofs.DeclaredKeys
import TablePlan.Proofs.Decoding
import TablePlan.Proofs.StepOrder
import TablePlan.Proofs.ColumnFlags

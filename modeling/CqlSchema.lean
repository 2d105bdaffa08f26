import CqlSchema.Host.Scratch
import CqlSchema.Main
import CqlSchema.Proofs.DataType.Mentions
import CqlSchema.Proofs.Entries
import CqlSchema.Proofs.TypeRegistry.Invariant
import CqlSchema.Proofs.TableRegistry.Invariant
import CqlSchema.Proofs.Catalog.Run
import CqlSchema.Proofs.DataType.Grammar
import CqlSchema.Proofs.DataType.RoundTrip
import CqlSchema.Proofs.Plan.Order
import CqlSchema.Proofs.DataType.Nesting
import CqlSchema.Proofs.Plan.Refusal
import CqlSchema.Proofs.DataType.SignatureText
import CqlSchema.Proofs.Statement.Separated
import CqlSchema.Proofs.Table.KeyText
import CqlSchema.Proofs.Statement.Recovery
import CqlSchema.Proofs.Document.Description
import CqlSchema.Proofs.Document.Reconstruction
import CqlSchema.Proofs.Plan.Store
import CqlSchema.Proofs.Plan.Execution
import CqlSchema.Proofs.Plan.Retry
import CqlSchema.Proofs.TypeRegistry.Growth
import CqlSchema.Proofs.TypeRegistry.Worklist
import CqlSchema.Proofs.TypeRegistry.Permanence
import CqlSchema.Proofs.Plan.Growth
import CqlSchema.Proofs.Plan.Creations
import CqlSchema.Proofs.Plan.Nesting
import CqlSchema.Proofs.Document.Acceptance
import CqlSchema.Proofs.Document.ColumnChecks
import CqlSchema.Proofs.Document.Reference
import CqlSchema.Proofs.Document.Repetition
import CqlSchema.Proofs.Document.Joining
import CqlSchema.Proofs.DataType.Renumbering
import CqlSchema.Proofs.TypeRegistry.Renumbering
import CqlSchema.Proofs.Catalog.Renumbering
import CqlSchema.Proofs.Plan.Keyspace
import CqlSchema.Proofs.Plan.Renumbering
import CqlSchema.Proofs.Document.Reordering
import CqlSchema.Proofs.Statement.Balance
import CqlSchema.Proofs.Statement.OneStatement
import CqlSchema.Proofs.CommandLine.Planning
import CqlSchema.Proofs.CommandLine.Check
import CqlSchema.Proofs.CommandLine.Script
import CqlSchema.Proofs.DataType.FaultOffset
import CqlSchema.Proofs.Document.Refusal
import CqlSchema.Proofs.Catalog.Serialized
import CqlSchema.Proofs.CommandLine.Faithful
import CqlSchema.Proofs.CommandLine.Handover
import CqlSchema.Proofs.CommandLine.Agreement
import CqlSchema.Proofs.DataType.Place
import CqlSchema.Proofs.DataType.Words
import CqlSchema.Proofs.Statement.TypeNames
import CqlSchema.Proofs.Plan.ForeignTypes
import CqlSchema.Proofs.Json.Pretty
import CqlSchema.Proofs.Settings.Keeping
import CqlSchema.Proofs.Settings.Latest

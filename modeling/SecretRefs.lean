import SecretRefs.Config.FromJson
import SecretRefs.FileTree
import SecretRefs.Main
import SecretRefs.Session
import SecretRefs.Proofs.Pass.Missing
import SecretRefs.Proofs.Pass.Scope
import SecretRefs.Proofs.Span.Grammar
import SecretRefs.Proofs.Span.WellFormed
import SecretRefs.Proofs.Pass.Stages
import SecretRefs.Proofs.Pass.Secrecy
import SecretRefs.Proofs.Exposure.Plan
import SecretRefs.Proofs.LookAhead
import SecretRefs.Proofs.Properties
import SecretRefs.Proofs.Shell.Export
import SecretRefs.Proofs.Command.Withheld
import SecretRefs.Proofs.Pass.Pointwise
import SecretRefs.Proofs.Properties.Escape
import SecretRefs.Proofs.Command.Properties
import SecretRefs.Proofs.Command.Arguments
import SecretRefs.Proofs.Command.Verbosity
import SecretRefs.Proofs.Properties.Lines
import SecretRefs.Proofs.Namespace.Lead
import SecretRefs.Proofs.Scan.Union
import SecretRefs.Proofs.Pass.AuditTrail
import SecretRefs.Proofs.Config.Load
import SecretRefs.Proofs.Config.Nearest
import SecretRefs.Proofs.Source
import SecretRefs.Proofs.Command.Listing
import SecretRefs.Proofs.Command.Hint
import SecretRefs.Proofs.Config.Documents
import SecretRefs.Proofs.Span.Calls
import SecretRefs.Proofs.StoreKey.Order

import NestedSelect.Config.Environment
import NestedSelect.Connection.DialectName
import NestedSelect.Connection.Facade
import NestedSelect.Workspace.Desk
import NestedSelect.Exports
import NestedSelect.Untyped
import NestedSelect.Proofs.Query.Work
import NestedSelect.Proofs.Query.Registration
import NestedSelect.Proofs.Identifier
import NestedSelect.Proofs.Query.Aliases
import NestedSelect.Proofs.Query.Fragments
import NestedSelect.Proofs.Query.Placeholders
import NestedSelect.Proofs.Query.Totality
import NestedSelect.Proofs.Query.Wildcards
import NestedSelect.Proofs.Query.Framing
import NestedSelect.Proofs.Query.Questions
import NestedSelect.Proofs.Query.Acceptance
import NestedSelect.Proofs.Query.Stability
import NestedSelect.Proofs.Query.Inquiry
import NestedSelect.Proofs.Query.Repetition
import NestedSelect.Proofs.Query.Legibility
import NestedSelect.Proofs.Sql.Pieces
import NestedSelect.Proofs.Query.Caps
import NestedSelect.Proofs.Query.Leniency
import NestedSelect.Proofs.Query.Revaluing
import NestedSelect.Proofs.Query.Values
import NestedSelect.Proofs.Query.Misnaming
import NestedSelect.Proofs.Query.Names
import NestedSelect.Proofs.Query.Orientation
import NestedSelect.Proofs.Query.Paging
import NestedSelect.Proofs.Query.Awaiting
import NestedSelect.Proofs.Query.Batching
import NestedSelect.Proofs.Query.Listing
import NestedSelect.Proofs.Dialect.Selection
import NestedSelect.Proofs.Query.Warnings
import NestedSelect.Proofs.Workspace.Hydrators
import NestedSelect.Proofs.Workspace.Isolation
import NestedSelect.Proofs.Sql.Recognition
import NestedSelect.Proofs.Query.Pages
import NestedSelect.Proofs.Relation.Spelling
import NestedSelect.Proofs.Hydration.Shapes
import NestedSelect.Proofs.Hydration.Tolerance
import NestedSelect.Proofs.Hydration.Delivery
import NestedSelect.Proofs.Hydration.Agreement
import NestedSelect.Proofs.Hydration.Columns
import NestedSelect.Proofs.Query.Transcript
import NestedSelect.Proofs.Connection.Facade
import NestedSelect.Proofs.Hydration.Coercion
import NestedSelect.Proofs.Grammar

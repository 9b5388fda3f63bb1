import WebStyle.Text.Quoted
import WebStyle.Token.Printer
import WebStyle.Selector.Parser
import WebStyle.Media.Environment
import WebStyle.Sheet.Rule
import WebStyle.Block
import WebStyle.Table
import WebStyle.Property.Registry
import WebStyle.Style.Substitution
import WebStyle.Style.Computed
import WebStyle.Style.Matching
import WebStyle.ObjectModel.Error
import WebStyle.ObjectModel.Edit
import WebStyle.ObjectModel.Text
import WebStyle.Style.Resolution
import WebStyle.Url.Parser
import WebStyle.Encoding.Decoder
import WebStyle.Loading.Address
import WebStyle.Loading.Response
import WebStyle.Document.Styling
import WebStyle.Main
import WebStyle.Proofs.Cascade
import WebStyle.Proofs.Dom.Links
import WebStyle.Proofs.Dom.Changes
import WebStyle.Proofs.Dom.Walks
import WebStyle.Proofs.Dom.Matching
import WebStyle.Proofs.Depth
import WebStyle.Proofs.ObjectModel.Ownership
import WebStyle.Proofs.ObjectModel.Soundness
import WebStyle.Proofs.ObjectModel.Visits
import WebStyle.Proofs.ObjectModel.Adoption
import WebStyle.Proofs.ObjectModel.Edit
import WebStyle.Proofs.Style.Applied
import WebStyle.Proofs.Dom.Preorder
import WebStyle.Proofs.Dom.Creation
import WebStyle.Proofs.Document.Coherence
import WebStyle.Proofs.Document.Actions
import WebStyle.Proofs.Document.Trees
import WebStyle.Proofs.ObjectModel.Imports
import WebStyle.Proofs.ObjectModel.Chains
import WebStyle.Proofs.ObjectModel.Sources
import WebStyle.Proofs.Loading.Queue
import WebStyle.Proofs.Document.Requests
import WebStyle.Proofs.Document.Targets
import WebStyle.Proofs.Document.Results
import WebStyle.Proofs.Document.Growth
import WebStyle.Proofs.Document.Futures
import WebStyle.Proofs.Document.Completion
import WebStyle.Proofs.Document.Texts
import WebStyle.Proofs.Document.Runs
import WebStyle.Proofs.ObjectModel.Forest
import WebStyle.Proofs.ObjectModel.Lists
import WebStyle.Proofs.ObjectModel.Settling
import WebStyle.Proofs.ObjectModel.Deallocation
import WebStyle.Proofs.ObjectModel.Refusal
import WebStyle.Proofs.Token.Lexing
import WebStyle.Proofs.Token.Nesting
import WebStyle.Proofs.Token.Proper
import WebStyle.Proofs.Number.Whole
import WebStyle.Proofs.Number.Rounding
import WebStyle.Proofs.Number.Printed
import WebStyle.Proofs.Token.Adjacent
import WebStyle.Proofs.Token.Canonical
import WebStyle.Proofs.Selector.Formula
import WebStyle.Proofs.Selector.Printed
import WebStyle.Proofs.Selector.Read
import WebStyle.Proofs.Selector.Valid
import WebStyle.Proofs.Token.Local
import WebStyle.Proofs.Block
import WebStyle.Proofs.Sheet.Recovery
import WebStyle.Proofs.Cursor.Sheet
import WebStyle.Proofs.ObjectModel.Lineage
import WebStyle.Proofs.ObjectModel.Anchors
import WebStyle.Proofs.ObjectModel.Roots
import WebStyle.Proofs.ObjectModel.Room
import WebStyle.Proofs.ObjectModel.Held
import WebStyle.Proofs.Document.Guards
import WebStyle.Proofs.Document.Admission
import WebStyle.Proofs.Document.Service
import WebStyle.Proofs.Document.Termination
import WebStyle.Proofs.Document.Links
import WebStyle.Proofs.Document.Traversal
import WebStyle.Proofs.Slots.History
import WebStyle.Proofs.Document.Tickets
import WebStyle.Proofs.Style.Assignment
import WebStyle.Proofs.Style.Pending
import WebStyle.Proofs.Style.Routes
import WebStyle.Proofs.Style.References
import WebStyle.Proofs.Style.Custom
import WebStyle.Proofs.Style.Cycles
import WebStyle.Proofs.Style.Renaming
import WebStyle.Proofs.Style.Absolute
import WebStyle.Proofs.Sheet.Order
import WebStyle.Proofs.ObjectModel.Additions
import WebStyle.Proofs.ObjectModel.Alterations
import WebStyle.Proofs.ObjectModel.Insertion
import WebStyle.Proofs.ObjectModel.Order
import WebStyle.Proofs.ObjectModel.Framing
import WebStyle.Proofs.Document.Removal
import WebStyle.Proofs.Style.Splitting
import WebStyle.Proofs.Token.Divided
import WebStyle.Proofs.Token.Joined
import WebStyle.Proofs.Token.Spelled
import WebStyle.Proofs.Style.Substitution
import WebStyle.Proofs.Value.Component
import WebStyle.Proofs.Property.Shorthand
import WebStyle.Proofs.Dom.Siblings
import WebStyle.Proofs.Dom.Positions
import WebStyle.Proofs.Dom.Refreshed
import WebStyle.Proofs.Selector.Microsyntax
import WebStyle.Proofs.Token.Enclosed
import WebStyle.Proofs.Media.Printed
import WebStyle.Proofs.Media.RoundTrip
import WebStyle.Proofs.Media.Malformed
import WebStyle.Proofs.Sheet.Isolation
import WebStyle.Proofs.Sheet.Single
import WebStyle.Proofs.ObjectModel.Filling
import WebStyle.Proofs.Token.Escaped
import WebStyle.Proofs.Block.Scripted
import WebStyle.Proofs.ObjectModel.Walks

import TypedQuery.Declarations.Printer
import TypedQuery.Directory
import TypedQuery.Engine.Basic
import TypedQuery.Main
import TypedQuery.Schema.Dangling
import TypedQuery.Server.Basic
import TypedQuery.Server.ConfigFile
import TypedQuery.Proofs.Arguments.NormalForm
import TypedQuery.Proofs.Engine.GuardsFirst
import TypedQuery.Proofs.Plan.Response
import TypedQuery.Proofs.Plan.Agreement
import TypedQuery.Proofs.Plan.Filling
import TypedQuery.Proofs.Engine.FullAnswer
import TypedQuery.Proofs.Engine.TypedResponse
import TypedQuery.Proofs.Arguments.Attribution
import TypedQuery.Proofs.Plan.Attribution
import TypedQuery.Proofs.Plan.Placement
import TypedQuery.Proofs.Engine.Serving
import TypedQuery.Proofs.Engine.Attribution
import TypedQuery.Proofs.Schema.Redaction
import TypedQuery.Proofs.Plan.Redaction
import TypedQuery.Proofs.Plan.Visibility
import TypedQuery.Proofs.Engine.HiddenFields
import TypedQuery.Proofs.Plan.Parts
import TypedQuery.Proofs.Engine.Parts
import TypedQuery.Proofs.Schema.Dangling
import TypedQuery.Proofs.Schema.Registration
import TypedQuery.Proofs.Engine.RegistrationOrder
import TypedQuery.Proofs.Schema.Reach
import TypedQuery.Proofs.Plan.Completeness
import TypedQuery.Proofs.Declarations.Completeness
import TypedQuery.Proofs.Engine.StartupCheck
import TypedQuery.Proofs.Schema.History
import TypedQuery.Proofs.Schema.Growth
import TypedQuery.Proofs.Growth
import TypedQuery.Proofs.Arguments.Growth
import TypedQuery.Proofs.Plan.Growth
import TypedQuery.Proofs.Engine.Growth
import TypedQuery.Proofs.Plan.Stability
import TypedQuery.Proofs.Plan.Walk
import TypedQuery.Proofs.Engine.SubTree
import TypedQuery.Proofs.Plan.Repetition
import TypedQuery.Proofs.Engine.SecondWalk
import TypedQuery.Proofs.Entries
import TypedQuery.Proofs.Engine.BoundRequests
import TypedQuery.Proofs.Declarations.Exports
import TypedQuery.Proofs.Declarations.Mentions
import TypedQuery.Proofs.Plan.Planning
import TypedQuery.Proofs.Plan.Naming
import TypedQuery.Proofs.Declarations.Selectable
import TypedQuery.Proofs.Declarations.Walk
import TypedQuery.Proofs.Declarations.Collection
import TypedQuery.Proofs.Declarations.Coverage
import TypedQuery.Proofs.Declarations.Closure
import TypedQuery.Proofs.Plan.Frame
import TypedQuery.Proofs.Plan.Reach
import TypedQuery.Proofs.Plan.Pruning
import TypedQuery.Proofs.Plan.Steps
import TypedQuery.Proofs.Engine.DeferredFields
import TypedQuery.Proofs.Schema.Scalars
import TypedQuery.Proofs.Arguments.Stability
import TypedQuery.Proofs.Arguments.Positions
import TypedQuery.Proofs.Arguments.Order
import TypedQuery.Proofs.Arguments.KeyOrder
import TypedQuery.Proofs.Plan.Idempotence
import TypedQuery.Proofs.Engine.Echo
import TypedQuery.Proofs.Json.Sameness
import TypedQuery.Proofs.Plan.Spelling
import TypedQuery.Proofs.Engine.Marker
import TypedQuery.Proofs.Engine.BoundArguments
import TypedQuery.Proofs.Server.Mounting
import TypedQuery.Proofs.Declarations.Concealment
import TypedQuery.Proofs.Declarations.Scanner
import TypedQuery.Proofs.Declarations.MarkerText
import TypedQuery.Proofs.Schema.Descriptions
import TypedQuery.Proofs.Declarations.Descriptions
import TypedQuery.Proofs.Declarations.DocumentTokens
import TypedQuery.Proofs.Declarations.Quoting
import TypedQuery.Proofs.Declarations.Places
import TypedQuery.Proofs.Engine.Envelopes
import TypedQuery.Proofs.Declarations.Registered
import TypedQuery.Proofs.Json.Nesting
import TypedQuery.Proofs.Arguments.Nesting
import TypedQuery.Proofs.Plan.Nesting
import TypedQuery.Proofs.Plan.Bare
import TypedQuery.Proofs.Directory.Users
import TypedQuery.Proofs.Directory.Filling
import TypedQuery.Proofs.Directory.Agreement

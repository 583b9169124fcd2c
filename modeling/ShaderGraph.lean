import ShaderGraph.Command.Serve
import ShaderGraph.Main
import ShaderGraph.Proofs.Order.Visit
import ShaderGraph.Service.Basic
import ShaderGraph.Proofs.Attempt
import ShaderGraph.Proofs.Keyed
import ShaderGraph.Proofs.Order.Dependencies
import ShaderGraph.Proofs.Graph.Block
import ShaderGraph.Proofs.Check
import ShaderGraph.Proofs.Number.Fixed
import ShaderGraph.Proofs.Program.Acceptance
import ShaderGraph.Proofs.Names.Collision
import ShaderGraph.Proofs.Names.Basic
import ShaderGraph.Proofs.Program.Calls
import ShaderGraph.Proofs.Program.Arguments
import ShaderGraph.Proofs.Text.Substitute
import ShaderGraph.Proofs.Program.Opening
import ShaderGraph.Proofs.Program.Statements
import ShaderGraph.Proofs.Program.Bracketing
import ShaderGraph.Proofs.Program.Refusals
import ShaderGraph.Proofs.Edit.Validity
import ShaderGraph.Proofs.Program.Repetition
import ShaderGraph.Proofs.Program.Rearrangement
import ShaderGraph.Proofs.Program.Width
import ShaderGraph.Proofs.Names.Helpers
import ShaderGraph.Proofs.Program.Globals
import ShaderGraph.Proofs.Service.Compile
import ShaderGraph.Proofs.Compile
import ShaderGraph.Proofs.Json.Reader
import ShaderGraph.Proofs.Schema.Origin
import ShaderGraph.Proofs.Command.Status
import ShaderGraph.Proofs.Command.Agreement
import ShaderGraph.Proofs.Program.Trimming
import ShaderGraph.Proofs.Names.Reports
import ShaderGraph.Proofs.Number.Printed
import ShaderGraph.Proofs.Schema.Rereading
import ShaderGraph.Proofs.Order.Stability
import ShaderGraph.Proofs.Program.Resorting
import ShaderGraph.Proofs.Order.Appending
import ShaderGraph.Proofs.Order.Final
import ShaderGraph.Proofs.Program.Output
import ShaderGraph.Proofs.Names.Clashes
import ShaderGraph.Proofs.Number.Nearest
import ShaderGraph.Proofs.Number.Reprinted
import ShaderGraph.Proofs.Edit.Removal
import ShaderGraph.Proofs.Program.Template
import ShaderGraph.Proofs.Program.Definition
import ShaderGraph.Proofs.Names.Traced
import ShaderGraph.Proofs.Edit.Listing
import ShaderGraph.Proofs.Edit.Strays
import ShaderGraph.Proofs.Graph.GeneratedIds
import ShaderGraph.Proofs.Graph.Renewal
import ShaderGraph.Proofs.Graph.Spelling
import ShaderGraph.Proofs.Order.Firsts
import ShaderGraph.Proofs.Program.Uniforms
import ShaderGraph.Proofs.Kind.Catalog
import ShaderGraph.Proofs.Order.Lookup

import Toolwright.Call.Arguments
import Toolwright.Call.Catalog
import Toolwright.Call.Config
import Toolwright.Call.Failure
import Toolwright.Call.Hygiene
import Toolwright.Call.RateLimiter
import Toolwright.Document.Load
import Toolwright.Json.Printer
import Toolwright.Main
import Toolwright.Module.Generate
import Toolwright.Proofs.Batch.Destinations
import Toolwright.Proofs.Batch.Isolation
import Toolwright.Proofs.Call.Catalog
import Toolwright.Proofs.Call.Config
import Toolwright.Proofs.Call.Hygiene
import Toolwright.Proofs.Call.RateLimiter
import Toolwright.Proofs.Call.Redaction
import Toolwright.Proofs.Document.Chain
import Toolwright.Proofs.Document.Reference
import Toolwright.Proofs.Json.Reordered
import Toolwright.Proofs.Module.BodyStatements
import Toolwright.Proofs.Module.Execution
import Toolwright.Proofs.Module.Handler
import Toolwright.Proofs.Module.Header
import Toolwright.Proofs.Module.Identifiers
import Toolwright.Proofs.Module.Items
import Toolwright.Proofs.Module.Scoping
import Toolwright.Proofs.Name.Allocator
import Toolwright.Proofs.Name.Identifier
import Toolwright.Proofs.Name.Snake
import Toolwright.Proofs.Name.TypeName
import Toolwright.Proofs.Name.Vendor
import Toolwright.Proofs.Text.Prose
import Toolwright.Proofs.Tool.Asked
import Toolwright.Proofs.Tool.Contributions
import Toolwright.Proofs.Tool.Independence
import Toolwright.Proofs.Tool.Inlining
import Toolwright.Proofs.Tool.LeafNames
import Toolwright.Proofs.Tool.Lost
import Toolwright.Proofs.Tool.Merging
import Toolwright.Proofs.Tool.Naming
import Toolwright.Proofs.Tool.Numbering
import Toolwright.Proofs.Tool.Order
import Toolwright.Proofs.Tool.Parameters
import Toolwright.Proofs.Tool.Passes
import Toolwright.Proofs.Tool.Placement
import Toolwright.Proofs.Tool.RoundTrip
import Toolwright.Proofs.Tool.Sources
import Toolwright.Proofs.Tool.Statistics
import Toolwright.Proofs.Tool.Typing
import Toolwright.Proofs.Tool.Unfolding
import Toolwright.Proofs.Yaml.ToJson

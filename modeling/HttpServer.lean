import HttpServer.Main
import HttpServer.Inline
import HttpServer.Pool.Schedule
import HttpServer.Script
import HttpServer.Proofs.Pool.Conservation
import HttpServer.Proofs.Request.Grammar
import HttpServer.Proofs.Router.Confinement
import HttpServer.Proofs.Router.Visits
import HttpServer.Proofs.Framing.HeadEnd
import HttpServer.Proofs.Framing.DeclaredLength
import HttpServer.Proofs.Framing.Reading
import HttpServer.Proofs.Server.SingleRun
import HttpServer.Proofs.Framing.Segmentation
import HttpServer.Proofs.Router.Passage
import HttpServer.Proofs.Router.Recovery
import HttpServer.Proofs.Pool.Lifecycle
import HttpServer.Proofs.Pool.Wakeup
import HttpServer.Proofs.Pool.Resizing
import HttpServer.Proofs.Pool.Calls
import HttpServer.Proofs.Server.Steps
import HttpServer.Proofs.Server.Stopping
import HttpServer.Proofs.Server.Exits
import HttpServer.Proofs.Connection.Faults
import HttpServer.Proofs.Server.Handling
import HttpServer.Proofs.Json.Documents
import HttpServer.Proofs.Json.Written
import HttpServer.Proofs.Json.Grammar
import HttpServer.Proofs.Json.Scalars
import HttpServer.Proofs.Json.Reading
import HttpServer.Proofs.Json.Parsed
import HttpServer.Proofs.Demo.Replies
import HttpServer.Proofs.Demo.Texts
import HttpServer.Proofs.Glob
import HttpServer.Proofs.Entries
import HttpServer.Proofs.Router.Patterns
import HttpServer.Proofs.Router.Selection
import HttpServer.Proofs.Router.Mappings
import HttpServer.Proofs.Percent.Encodings
import HttpServer.Proofs.Percent.Shrinking
import HttpServer.Proofs.Request.Query
import HttpServer.Proofs.Request.Parsed
import HttpServer.Proofs.Listener
import HttpServer.Proofs.Fields.History
import HttpServer.Proofs.Response.Length
import HttpServer.Proofs.Glob.Positions

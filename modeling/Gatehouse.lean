import Gatehouse.Text.Utf8
import Gatehouse.Text.Blank
import Gatehouse.Text.Numeral
import Gatehouse.Text.Html
import Gatehouse.Http.Method
import Gatehouse.Http.Uri
import Gatehouse.Http.Header
import Gatehouse.Stream.Reader
import Gatehouse.Http.Line
import Gatehouse.Http.Request
import Gatehouse.Http.Status
import Gatehouse.Http.HeaderTable
import Gatehouse.Http.Response
import Gatehouse.Http.ResponseHead
import Gatehouse.Worker.Error
import Gatehouse.Worker.Frame
import Gatehouse.Worker.Assembler
import Gatehouse.Files.Path
import Gatehouse.Files.Node
import Gatehouse.Files.System
import Gatehouse.Files.Tree
import Gatehouse.Files.Static
import Gatehouse.Gateway.Variables
import Gatehouse.Gateway.Modules
import Gatehouse.Routing.Error
import Gatehouse.Routing.Registry
import Gatehouse.Settings.Error
import Gatehouse.Settings.LogLevel
import Gatehouse.Decimal.Binary64
import Gatehouse.Decimal.Shortest
import Gatehouse.Text.Quoted
import Gatehouse.Json.Writer
import Gatehouse.Json.Problem
import Gatehouse.Json.Scan
import Gatehouse.Worker.Request
import Gatehouse.Worker.JsonRecord
import Gatehouse.Toml.Syntax
import Gatehouse.Toml.Failure
import Gatehouse.Toml.Document
import Gatehouse.Toml.Parser
import Gatehouse.Toml.Decode
import Gatehouse.Settings.FileConfig
import Gatehouse.Settings.CommandLine
import Gatehouse.Settings.Resolve
import Gatehouse.Server.Startup
import Gatehouse.Worker.Bridge
import Gatehouse.Server.Connection
import Gatehouse.Main
import Gatehouse.Proofs.FrameStream
import Gatehouse.Proofs.RequestReading
import Gatehouse.Proofs.Utf8RoundTrip
import Gatehouse.Proofs.HeaderLines
import Gatehouse.Proofs.RequestRoundTrip
import Gatehouse.Proofs.BridgeCorrelation
import Gatehouse.Proofs.ResponseFraming
import Gatehouse.Proofs.SeparatorSplitting
import Gatehouse.Proofs.ConnectionAnswers
import Gatehouse.Proofs.RegistryRuns
import Gatehouse.Proofs.WorkerCodec
import Gatehouse.Proofs.TargetSplitting
import Gatehouse.Proofs.HandlerVariables
import Gatehouse.Proofs.PathComponents
import Gatehouse.Proofs.StaticResolution
import Gatehouse.Proofs.OversizedFrames
import Gatehouse.Proofs.HtmlEscaping
import Gatehouse.Proofs.OrderedHeaders
import Gatehouse.Proofs.AdderSum
import Gatehouse.Proofs.RequestEquality
import Gatehouse.Proofs.CacheEquivalence
import Gatehouse.Proofs.HeadReprinting
import Gatehouse.Proofs.LineBuffering

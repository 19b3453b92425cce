import ClassOrder.Group
import ClassOrder.Marker
import ClassOrder.Bytes
import ClassOrder.Source
import ClassOrder.Location
import ClassOrder.Member
import ClassOrder.Ranking
import ClassOrder.Verdict
import ClassOrder.Severity
import ClassOrder.Message
import ClassOrder.Rule
import ClassOrder.Console
import ClassOrder.Console.Script
import ClassOrder.Json
import ClassOrder.Json.Parser
import ClassOrder.Json.Decoder
import ClassOrder.Path
import ClassOrder.Library
import ClassOrder.FileTree
import ClassOrder.Manifest
import ClassOrder.Settings
import ClassOrder.Audit
import ClassOrder.CommandLine
import ClassOrder.Main
import ClassOrder.Proofs.Ranking
import ClassOrder.Proofs.VerdictRuns
import ClassOrder.Proofs.SortedBodies
import ClassOrder.Proofs.Counting
import ClassOrder.Proofs.Configuration
import ClassOrder.Proofs.ExitCode
import ClassOrder.Proofs.Decoding
import ClassOrder.Proofs.ManifestFormat
import ClassOrder.Proofs.Locality
import ClassOrder.Proofs.NarrowedOrder
import ClassOrder.Proofs.RunReports
import ClassOrder.Proofs.UnitIssues
import ClassOrder.Proofs.OrderHistories
import ClassOrder.Proofs.AnnotationEdits
import ClassOrder.Proofs.BlamedGroups
import ClassOrder.Proofs.IdleAnnotations
import ClassOrder.Proofs.VerboseRuns
import ClassOrder.Proofs.OffendingKeys
import ClassOrder.Proofs.FirstFault
import ClassOrder.Proofs.ManifestDefects
import ClassOrder.Proofs.PassedOver
import ClassOrder.Proofs.ConfigurationFormat
import ClassOrder.Proofs.LayeredSettings
import ClassOrder.Proofs.MarkedDeclarations
import ClassOrder.Proofs.Arrangements
import ClassOrder.Proofs.QuotedLines
import ClassOrder.Proofs.VisiblePositions
import ClassOrder.Proofs.ConsoleMemory
import ClassOrder.Proofs.TerminalStyles
import ClassOrder.Proofs.FrozenLines
import ClassOrder.Proofs.StoredPlaces
import ClassOrder.Proofs.CharacterOrder

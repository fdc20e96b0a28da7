import TaintGrep.Command.Arguments
import TaintGrep.Command.Check
import TaintGrep.Command.Setup
import TaintGrep.Command.Outcome
import TaintGrep.Command.Program
import TaintGrep.Engine.Detector
import TaintGrep.Engine.Plugin
import TaintGrep.Engine.Session
import TaintGrep.Files.Page
import TaintGrep.Files.Path
import TaintGrep.Files.Tree
import TaintGrep.Log.Event
import TaintGrep.Main
import TaintGrep.Number.Double
import TaintGrep.Page.Response
import TaintGrep.Page.Script
import TaintGrep.Proofs.Collapsing
import TaintGrep.Proofs.Detection
import TaintGrep.Proofs.Encoding
import TaintGrep.Proofs.FindingLines
import TaintGrep.Proofs.JsonGrammar
import TaintGrep.Proofs.JsonReader
import TaintGrep.Proofs.JsonWriting
import TaintGrep.Proofs.MachineReports
import TaintGrep.Proofs.PageRecords
import TaintGrep.Proofs.Position
import TaintGrep.Proofs.Registration
import TaintGrep.Proofs.Scanning
import TaintGrep.Proofs.Scheduling
import TaintGrep.Proofs.ScriptRegions
import TaintGrep.Proofs.ScriptTags
import TaintGrep.Proofs.SessionLog
import TaintGrep.Proofs.SinkCalls
import TaintGrep.Proofs.UniqueViews
import TaintGrep.Record.Basic
import TaintGrep.Record.KnowledgeBase
import TaintGrep.Record.Unique
import TaintGrep.Report.Json
import TaintGrep.Report.Machine
import TaintGrep.Report.Readable
import TaintGrep.Text.Scan
import TaintGrep.Settings.Basic
import TaintGrep.Settings.Decode
import TaintGrep.Settings.Load
import TaintGrep.Taint.Analyzer
import TaintGrep.Taint.Call
import TaintGrep.Taint.Registry
import TaintGrep.Taint.Request
import TaintGrep.Text.Basic
import TaintGrep.Text.Folding
import TaintGrep.Text.Paint
import TaintGrep.Text.Place
import TaintGrep.Text.Quoted
import TaintGrep.Text.Utf8
import TaintGrep.Toml.Scalar
import TaintGrep.Toml.Document
import TaintGrep.Toml.Draft
import TaintGrep.Toml.Basic
import TaintGrep.Proofs.Folding
import TaintGrep.Proofs.SharedCalls
import TaintGrep.Proofs.Widening
import TaintGrep.Proofs.PageLines
import TaintGrep.Proofs.Underlining
import TaintGrep.Proofs.Decoding
import TaintGrep.Proofs.PageListing
import TaintGrep.Proofs.ReportTracing
import TaintGrep.Proofs.FirstRecords
import TaintGrep.Proofs.GrepRefinement
import TaintGrep.Proofs.PatternFaults
import TaintGrep.Proofs.StandardOutput
import TaintGrep.Proofs.CoarserViews
import TaintGrep.Proofs.Rescanning
import TaintGrep.Proofs.DecodeFaults
import TaintGrep.Proofs.Respelling
import TaintGrep.Proofs.RegistryHistory
import TaintGrep.Proofs.FiringSources
import TaintGrep.Proofs.PathRoutes
import TaintGrep.Proofs.EnclosingSettings
import TaintGrep.Proofs.SummaryCounts
import TaintGrep.Proofs.DistinctKeys
import TaintGrep.Proofs.PageDiscovery
import TaintGrep.Proofs.PageAddresses
import TaintGrep.Proofs.KnownKeys
import TaintGrep.Proofs.ContentTypes
import TaintGrep.Proofs.CaretSpans
import TaintGrep.Proofs.RecordEdits
import TaintGrep.Proofs.PlainReports

import CobolCompanion.Analysis
import CobolCompanion.Diagnostic
import CobolCompanion.Documents.Classification
import CobolCompanion.Documents.Store
import CobolCompanion.Editor.Completion
import CobolCompanion.Editor.Hover
import CobolCompanion.Editor.Navigation
import CobolCompanion.Editor.Outline
import CobolCompanion.Keyed
import CobolCompanion.Keyword.Match
import CobolCompanion.Keyword.Similarity
import CobolCompanion.Parse.Context
import CobolCompanion.Parse.Failure
import CobolCompanion.Parse.Lookahead
import CobolCompanion.Parse.Machine
import CobolCompanion.Parse.Production
import CobolCompanion.Parse.Progress
import CobolCompanion.Parse.Run
import CobolCompanion.Parse.State
import CobolCompanion.Protocol.Connection
import CobolCompanion.Protocol.Encode
import CobolCompanion.Protocol.Position
import CobolCompanion.Protocol.Value
import CobolCompanion.Samples
import CobolCompanion.Server.Engine
import CobolCompanion.Server.Log
import CobolCompanion.Server.Rehearsal
import CobolCompanion.Server.Request
import CobolCompanion.Server.Session
import CobolCompanion.Settings.Basic
import CobolCompanion.Settings.Fault
import CobolCompanion.Settings.Load
import CobolCompanion.Settings.Path
import CobolCompanion.Settings.Value
import CobolCompanion.Symbols.Basic
import CobolCompanion.Symbols.Build
import CobolCompanion.Symbols.Data
import CobolCompanion.Symbols.Label
import CobolCompanion.Text.Blank
import CobolCompanion.Text.Casing
import CobolCompanion.Text.Decimal
import CobolCompanion.Text.Location
import CobolCompanion.Text.Normal.Form
import CobolCompanion.Text.Normal.Tables
import CobolCompanion.Text.Numeral
import CobolCompanion.Text.Pieces
import CobolCompanion.Text.Position
import CobolCompanion.Text.Table
import CobolCompanion.Token.Basic
import CobolCompanion.Token.Scan
import CobolCompanion.Token.Stream
import CobolCompanion.Toml.Document
import CobolCompanion.Toml.Moment
import CobolCompanion.Toml.Text
import CobolCompanion.Toml.Value
import CobolCompanion.Tree.Basic
import CobolCompanion.Tree.Dump
import CobolCompanion.Uri.Address
import CobolCompanion.Uri.Basic
import CobolCompanion.Uri.Domain.Direction
import CobolCompanion.Uri.Domain.Label
import CobolCompanion.Uri.Domain.Name
import CobolCompanion.Uri.Domain.Punycode
import CobolCompanion.Uri.Domain.Tables
import CobolCompanion.Uri.Encoding
import CobolCompanion.Uri.Host
import CobolCompanion.Uri.Path
import CobolCompanion.Proofs.Conservation
import CobolCompanion.Proofs.Exhaustion
import CobolCompanion.Proofs.Keywords
import CobolCompanion.Proofs.Significance
import CobolCompanion.Proofs.Reading
import CobolCompanion.Proofs.Listing
import CobolCompanion.Proofs.ListingProductions
import CobolCompanion.Proofs.RoundTrip
import CobolCompanion.Proofs.Freshness
import CobolCompanion.Proofs.Stretches
import CobolCompanion.Proofs.TreeNodes
import CobolCompanion.Proofs.Advances
import CobolCompanion.Proofs.OpenUnits
import CobolCompanion.Proofs.ErrorRegions
import CobolCompanion.Proofs.Coupling
import CobolCompanion.Proofs.CoupledRuns
import CobolCompanion.Proofs.Splicing
import CobolCompanion.Proofs.Surroundings
import CobolCompanion.Proofs.Isolation
import CobolCompanion.Proofs.Findings
import CobolCompanion.Proofs.UnitOrigins
import CobolCompanion.Proofs.SelfClosed
import CobolCompanion.Proofs.Wording
import CobolCompanion.Proofs.Condensed
import CobolCompanion.Proofs.Layouts
import CobolCompanion.Proofs.TriviaInsensitivity
import CobolCompanion.Proofs.UnitShapes
import CobolCompanion.Proofs.Growth
import CobolCompanion.Proofs.TreeShape
import CobolCompanion.Proofs.Locations
import CobolCompanion.Proofs.SourceMapping
import CobolCompanion.Proofs.Caseless
import CobolCompanion.Proofs.CaselessTrees
import CobolCompanion.Proofs.CaselessRuns
import CobolCompanion.Proofs.CaseInsensitivity
import CobolCompanion.Proofs.ClientView
import CobolCompanion.Proofs.Silence
import CobolCompanion.Proofs.RuleScopes
import CobolCompanion.Proofs.UnitSites
import CobolCompanion.Proofs.TrailerWarnings
import CobolCompanion.Proofs.IndexWalk
import CobolCompanion.Proofs.DataHierarchy
import CobolCompanion.Proofs.DeclaredNames
import CobolCompanion.Proofs.TextOrder
import CobolCompanion.Proofs.TreeRegions
import CobolCompanion.Proofs.OutlineListing
import CobolCompanion.Proofs.DeclaredItems
import CobolCompanion.Proofs.OutlineRanges
import CobolCompanion.Proofs.ItemForest
import CobolCompanion.Proofs.DivisionContents
import CobolCompanion.Proofs.OutlineCompleteness
import CobolCompanion.Proofs.RecoveryPoints
import CobolCompanion.Proofs.HeaderLookahead
import CobolCompanion.Proofs.EnclosingNodes
import CobolCompanion.Proofs.TokenSeams
import CobolCompanion.Proofs.WordCompletion
import CobolCompanion.Proofs.ProgramOwnership
import CobolCompanion.Proofs.FindingOrder
import CobolCompanion.Proofs.Navigation
import CobolCompanion.Proofs.BlindProductions
import CobolCompanion.Proofs.RespeltRuns
import CobolCompanion.Proofs.SyntaxErrors
import CobolCompanion.Proofs.Respelling
import CobolCompanion.Proofs.Overruns
import CobolCompanion.Proofs.ExpectedOpeners
import CobolCompanion.Proofs.StoreHistory
import CobolCompanion.Proofs.LoadingBalance
import CobolCompanion.Proofs.Drawing
import CobolCompanion.Proofs.LongestMatch
import CobolCompanion.Proofs.Segmentation
import CobolCompanion.Proofs.LinePositions
import CobolCompanion.Proofs.BoundingBoxes
import CobolCompanion.Proofs.ContextHistory

import ContentSync.Acl
import ContentSync.Aggregate
import ContentSync.Aggregator
import ContentSync.Artifact
import ContentSync.Codec
import ContentSync.CommandLine
import ContentSync.Commands
import ContentSync.Config
import ContentSync.DocView.Parse
import ContentSync.Error
import ContentSync.Export
import ContentSync.Filter
import ContentSync.Import.DocView
import ContentSync.Import.Folder
import ContentSync.Import.Importer
import ContentSync.Import.Rescue
import ContentSync.Import.Versions
import ContentSync.ImportInfo
import ContentSync.Json.Decode
import ContentSync.Json.Reader
import ContentSync.Json.Value
import ContentSync.Main
import ContentSync.Name.Iso9075
import ContentSync.Name.Known
import ContentSync.Name.Platform
import ContentSync.Node
import ContentSync.Number.Binary64
import ContentSync.Number.Decimal
import ContentSync.Number.Integer
import ContentSync.Number.Shortest
import ContentSync.Package.FileTree
import ContentSync.Package.Layout
import ContentSync.Path
import ContentSync.Progress
import ContentSync.Property
import ContentSync.Regex.Ast
import ContentSync.Regex.Footprint
import ContentSync.Regex.Matcher
import ContentSync.Regex.Parser
import ContentSync.Regex.Pattern
import ContentSync.Regex.Property
import ContentSync.Regex.Shape
import ContentSync.Regex.Spans
import ContentSync.Regex.Translate
import ContentSync.Repository
import ContentSync.Serialize
import ContentSync.Session
import ContentSync.Snapshot
import ContentSync.Text.Alphabetic
import ContentSync.Text.Base64
import ContentSync.Text.CaseFolding
import ContentSync.Text.CodeRanges
import ContentSync.Text.DecimalDigit
import ContentSync.Text.Numeric
import ContentSync.Text.PropertyTables
import ContentSync.Text.Utf8
import ContentSync.Text.WhiteSpace
import ContentSync.Text.WordChar
import ContentSync.Time.Timestamp
import ContentSync.Value
import ContentSync.Versioning
import ContentSync.Xml.Attributes
import ContentSync.Xml.Reader
import ContentSync.Xml.Writer
import ContentSync.Proofs.PathSegments
import ContentSync.Proofs.NodeUpdate
import ContentSync.Proofs.RepositoryOps
import ContentSync.Proofs.RescueStream
import ContentSync.Proofs.RescueRestore
import ContentSync.Proofs.PropertyUpdates
import ContentSync.Proofs.RescueMerge
import ContentSync.Proofs.KeptNode
import ContentSync.Proofs.SparedNode
import ContentSync.Proofs.SparedContent
import ContentSync.Proofs.ImportFrame
import ContentSync.Proofs.ExceptRun
import ContentSync.Proofs.AggregatePartition
import ContentSync.Proofs.TypedText
import ContentSync.Proofs.ShortestDigits
import ContentSync.Proofs.NearestDouble
import ContentSync.Proofs.DoubleText
import ContentSync.Proofs.KeptProperty
import ContentSync.Proofs.AllOrNothing
import ContentSync.Proofs.ReportMerge
import ContentSync.Proofs.FolderSync
import ContentSync.Proofs.StagedNames
import ContentSync.Proofs.DistinctSiblings
import ContentSync.Proofs.HistoryShape
import ContentSync.Proofs.StorageTrees
import ContentSync.Proofs.VersionHistories
import ContentSync.Proofs.PlainText
import ContentSync.Proofs.Base64Text
import ContentSync.Proofs.IntegerText
import ContentSync.Proofs.VersionRebuild
import ContentSync.Proofs.HistoryLookup
import ContentSync.Proofs.VersionCheckin
import ContentSync.Proofs.UpToDateCheck
import ContentSync.Proofs.DateText
import ContentSync.Proofs.PropertyText
import ContentSync.Proofs.StagedWrites
import ContentSync.Proofs.StagedOverwrite
import ContentSync.Proofs.VersionReplay
import ContentSync.Proofs.XmlNames
import ContentSync.Proofs.FileNames
import ContentSync.Proofs.ArtifactPaths
import ContentSync.Proofs.Utf8Text
import ContentSync.Proofs.JsonReadBack
import ContentSync.Proofs.ElementBalance
import ContentSync.Proofs.ReadToEnd
import ContentSync.Proofs.ClosedElements
import ContentSync.Proofs.SnapshotReadBack
import ContentSync.Proofs.MarkupText
import ContentSync.Proofs.MarkupReadBack
import ContentSync.Proofs.DocViewReadBack
import ContentSync.Proofs.DecimalGrammar
import ContentSync.Proofs.VersionDocument
import ContentSync.Proofs.HistoryImport
import ContentSync.Proofs.HistoryStaging
import ContentSync.Proofs.DrawnIdentifiers
import ContentSync.Proofs.PortableHistories

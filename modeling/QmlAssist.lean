import QmlAssist.Files.Tree
import QmlAssist.Main
import QmlAssist.Proofs.Text.Block
import QmlAssist.Proofs.Text.CharClass
import QmlAssist.Proofs.Text.Occurrence
import QmlAssist.Protocol.Address
import QmlAssist.Protocol.Schema
import QmlAssist.Proofs.Document.Backward
import QmlAssist.Proofs.Analysis.Enclosing
import QmlAssist.Proofs.Document.Lines
import QmlAssist.Proofs.Analysis.Declaration
import QmlAssist.Proofs.Analysis.Markup
import QmlAssist.Proofs.Analysis.Import
import QmlAssist.Proofs.Analysis.HalfTypedImport
import QmlAssist.Proofs.Workspace.Session
import QmlAssist.Proofs.Analysis.History
import QmlAssist.Proofs.Catalog.Extension
import QmlAssist.Proofs.Catalog.Version
import QmlAssist.Proofs.Catalog.Tables
import QmlAssist.Proofs.Document.Offset
import QmlAssist.Proofs.Analysis.Consistent
import QmlAssist.Proofs.Completion.Distinct
import QmlAssist.Proofs.Analysis.ImportLine
import QmlAssist.Proofs.Completion.Context
import QmlAssist.Proofs.Completion.Lineage
import QmlAssist.Proofs.Document.ReadingOrder
import QmlAssist.Proofs.Document.OutsideBraces
import QmlAssist.Proofs.Document.NearestMatch
import QmlAssist.Proofs.Document.Positions
import QmlAssist.Proofs.Catalog.Omission
import QmlAssist.Proofs.Catalog.Reordering
import QmlAssist.Proofs.Reference.Hover
import QmlAssist.Proofs.Analysis.Climbing
import QmlAssist.Proofs.Analysis.RepeatedImport
import QmlAssist.Proofs.Text.Pieces
import QmlAssist.Proofs.Catalog.VersionOrder
import QmlAssist.Proofs.Catalog.VersionRequest
import QmlAssist.Proofs.Catalog.Export
import QmlAssist.Proofs.Text.LetterCase
import QmlAssist.Proofs.Reference.Page
import QmlAssist.Proofs.Analysis.WrittenName
import QmlAssist.Proofs.Settings.Descriptors
import QmlAssist.Proofs.Document.Checked
import QmlAssist.Proofs.Document.Outcome
import QmlAssist.Proofs.Analysis.Checked
import QmlAssist.Proofs.Analysis.CursorSafety

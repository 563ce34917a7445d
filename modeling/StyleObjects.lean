import StyleObjects.CommandLine.Arguments
import StyleObjects.CommandLine.Help
import StyleObjects.CommandLine.Run
import StyleObjects.Compile
import StyleObjects.Data
import StyleObjects.Dict
import StyleObjects.Extract
import StyleObjects.Extract.DocComment
import StyleObjects.Extract.Settings
import StyleObjects.Files.Access
import StyleObjects.Files.Path
import StyleObjects.Files.Tree
import StyleObjects.Json
import StyleObjects.Json.Numeral
import StyleObjects.Json.Parser
import StyleObjects.Json.Printer
import StyleObjects.Json.Token
import StyleObjects.Kebab
import StyleObjects.Main
import StyleObjects.Number.Binary64
import StyleObjects.Number.Notation
import StyleObjects.Number.Reading
import StyleObjects.Number.Shortest
import StyleObjects.Pattern
import StyleObjects.Pattern.Assertion
import StyleObjects.Pattern.Bracket
import StyleObjects.Pattern.CharSet
import StyleObjects.Pattern.Escape
import StyleObjects.Pattern.Flags
import StyleObjects.Pattern.Named
import StyleObjects.Pattern.Reading
import StyleObjects.Proofs.BuildOrder
import StyleObjects.Proofs.ByteScan
import StyleObjects.Proofs.CommentLayout
import StyleObjects.Proofs.CommentScan
import StyleObjects.Proofs.CommentTags
import StyleObjects.Proofs.DeclarationPattern
import StyleObjects.Proofs.DerivedSelectors
import StyleObjects.Proofs.Entry
import StyleObjects.Proofs.ExtractedRecord
import StyleObjects.Proofs.ExtractionFaults
import StyleObjects.Proofs.FileChanges
import StyleObjects.Proofs.InertSettings
import StyleObjects.Proofs.LabelLines
import StyleObjects.Proofs.LastWrites
import StyleObjects.Proofs.Layout
import StyleObjects.Proofs.LoadersAgree
import StyleObjects.Proofs.LookupMaps
import StyleObjects.Proofs.LowercaseForms
import StyleObjects.Proofs.MemberOrder
import StyleObjects.Proofs.NestedBlocks
import StyleObjects.Proofs.ObjectComment
import StyleObjects.Proofs.ObjectPieces
import StyleObjects.Proofs.Outline
import StyleObjects.Proofs.OutlineForest
import StyleObjects.Proofs.OwnTarget
import StyleObjects.Proofs.PathSegments
import StyleObjects.Proofs.PatternLanguage
import StyleObjects.Proofs.Place
import StyleObjects.Proofs.Placement
import StyleObjects.Proofs.PropertyOrder
import StyleObjects.Proofs.Readback
import StyleObjects.Proofs.RecordFields
import StyleObjects.Proofs.Reports
import StyleObjects.Proofs.RoundTrip
import StyleObjects.Proofs.SavedValues
import StyleObjects.Proofs.SelectorScope
import StyleObjects.Proofs.SourceComments
import StyleObjects.Proofs.SourceItems
import StyleObjects.Proofs.SourceSplit
import StyleObjects.Proofs.StableNames
import StyleObjects.Proofs.Sweeping
import StyleObjects.Proofs.TagLayout
import StyleObjects.Proofs.TaggedSource
import StyleObjects.Proofs.Unbroken
import StyleObjects.Proofs.WordDashes
import StyleObjects.Proofs.WrittenSheets
import StyleObjects.Record
import StyleObjects.Record.Loading
import StyleObjects.Record.OfData
import StyleObjects.Record.ShapeError
import StyleObjects.Record.ToJson
import StyleObjects.Selector
import StyleObjects.Sheet.AtRule
import StyleObjects.Sheet.Lookup
import StyleObjects.Sheet.Output
import StyleObjects.Sheet.Rule
import StyleObjects.Style.Declaration
import StyleObjects.Style.OfData
import StyleObjects.Style.Property
import StyleObjects.Style.RuleKind
import StyleObjects.Style.StyleModule
import StyleObjects.Text.Blank
import StyleObjects.Text.Quoted
import StyleObjects.Text.Search
import StyleObjects.Unicode.Category
import StyleObjects.Unicode.Folding
import StyleObjects.Unicode.LetterCase
import StyleObjects.Unicode.Printable
import StyleObjects.Unicode.Property
import StyleObjects.Unicode.Script
import StyleObjects.Unicode.Span
import StyleObjects.Yaml.BlockScalar
import StyleObjects.Yaml.Cursor
import StyleObjects.Yaml.FlowScalar
import StyleObjects.Yaml.Loading
import StyleObjects.Yaml.Node
import StyleObjects.Yaml.Schema
import StyleObjects.Yaml.Tag
import StyleObjects.Yaml.Token

import RuleHarvest.CommandLine.Given
import RuleHarvest.CommandLine.Help
import RuleHarvest.CommandLine.Keyword
import RuleHarvest.CommandLine.Number
import RuleHarvest.CommandLine.Options
import RuleHarvest.CommandLine.Setting
import RuleHarvest.CommandLine.Targets
import RuleHarvest.Fetch.Archive
import RuleHarvest.Fetch.Batch
import RuleHarvest.Fetch.Config
import RuleHarvest.Fetch.Duration
import RuleHarvest.Fetch.Error
import RuleHarvest.Fetch.Harvest
import RuleHarvest.Fetch.Network
import RuleHarvest.Fetch.Retry
import RuleHarvest.Files.FileTree
import RuleHarvest.Files.Location
import RuleHarvest.Html.Adoption
import RuleHarvest.Html.Builder
import RuleHarvest.Html.CharacterNames
import RuleHarvest.Html.Doctype
import RuleHarvest.Html.Document
import RuleHarvest.Html.Element
import RuleHarvest.Html.Event
import RuleHarvest.Html.Lexer
import RuleHarvest.Html.Modes.Body
import RuleHarvest.Html.Modes.Foreign
import RuleHarvest.Html.Modes.Outline
import RuleHarvest.Html.Modes.Select
import RuleHarvest.Html.Modes.Table
import RuleHarvest.Html.NodeTable
import RuleHarvest.Html.Page
import RuleHarvest.Html.Reference
import RuleHarvest.Html.Token
import RuleHarvest.Json.Fault
import RuleHarvest.Json.Scalar
import RuleHarvest.Json.Shape
import RuleHarvest.Json.Skip
import RuleHarvest.Json.Value
import RuleHarvest.Main
import RuleHarvest.Number.Binary64
import RuleHarvest.Number.Shortest
import RuleHarvest.Proofs.Fetch.Backoff
import RuleHarvest.Proofs.Fetch.Bounds
import RuleHarvest.Proofs.Fetch.FurtherAttempts
import RuleHarvest.Proofs.Fetch.InOrder
import RuleHarvest.Proofs.Fetch.OneByOne
import RuleHarvest.Proofs.Fetch.Retries
import RuleHarvest.Proofs.Fetch.Turns
import RuleHarvest.Proofs.Fetch.Visits
import RuleHarvest.Proofs.Files.Growth
import RuleHarvest.Proofs.Html.Alike
import RuleHarvest.Proofs.Html.Building
import RuleHarvest.Proofs.Html.Escape
import RuleHarvest.Proofs.Html.Position
import RuleHarvest.Proofs.Html.Tree
import RuleHarvest.Proofs.Json.Accepted
import RuleHarvest.Proofs.Json.Grammar
import RuleHarvest.Proofs.Json.Members
import RuleHarvest.Proofs.Json.Pieces
import RuleHarvest.Proofs.Json.Shape
import RuleHarvest.Proofs.Json.Skipping
import RuleHarvest.Proofs.Json.Text
import RuleHarvest.Proofs.Rule.AnyOrder
import RuleHarvest.Proofs.Rule.CutWords
import RuleHarvest.Proofs.Rule.FieldMap
import RuleHarvest.Proofs.Rule.FirstPair
import RuleHarvest.Proofs.Rule.KeyAsLabel
import RuleHarvest.Proofs.Rule.Members
import RuleHarvest.Proofs.Rule.NestedBlocks
import RuleHarvest.Proofs.Rule.NormalForm
import RuleHarvest.Proofs.Rule.ReadBack
import RuleHarvest.Proofs.Rule.SameLayout
import RuleHarvest.Proofs.Rule.TermGroups
import RuleHarvest.Proofs.Rule.Written
import RuleHarvest.Proofs.Run.Outcome
import RuleHarvest.Proofs.Run.Stages
import RuleHarvest.Proofs.Store.Acts
import RuleHarvest.Proofs.Store.Calls
import RuleHarvest.Proofs.Store.Frame
import RuleHarvest.Proofs.Store.Interleaved
import RuleHarvest.Proofs.Store.Names
import RuleHarvest.Proofs.Text.Seams
import RuleHarvest.Proofs.Text.Utf8
import RuleHarvest.Rule.Encoding
import RuleHarvest.Rule.Extract
import RuleHarvest.Rule.FieldMap
import RuleHarvest.Rule.Key
import RuleHarvest.Rule.PageUrl
import RuleHarvest.Rule.Record
import RuleHarvest.Run.Pipeline
import RuleHarvest.Run.Program
import RuleHarvest.Store.OutputPath
import RuleHarvest.Store.Save
import RuleHarvest.Text.Alphanumeric
import RuleHarvest.Text.Blank
import RuleHarvest.Text.Lowercase
import RuleHarvest.Text.Quoted
import RuleHarvest.Text.Utf8
import RuleHarvest.Url.Basic
import RuleHarvest.Url.Host
import RuleHarvest.Url.Percent
import RuleHarvest.Url.Punycode
import RuleHarvest.Proofs.Store.OutputNames
import RuleHarvest.Proofs.Rule.RuleNumber
import RuleHarvest.Proofs.CommandLine.Items
import RuleHarvest.Proofs.CommandLine.Pieces
import RuleHarvest.Proofs.Rule.ListText
import RuleHarvest.Proofs.CommandLine.Reading
import RuleHarvest.Proofs.CommandLine.Chosen
import RuleHarvest.Proofs.Run.Targets
import RuleHarvest.Proofs.Run.NumberedRules
import RuleHarvest.Proofs.Store.JsonEndings
import RuleHarvest.Proofs.Text.MaximalRuns
import RuleHarvest.Proofs.CommandLine.Admitted
import RuleHarvest.Proofs.CommandLine.Apart
import RuleHarvest.Proofs.Rule.SameKey

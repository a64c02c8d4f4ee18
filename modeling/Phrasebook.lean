import Phrasebook.Codec.Definition
import Phrasebook.Codec.Message
import Phrasebook.CommandLine.Arguments
import Phrasebook.CommandLine.Check
import Phrasebook.CommandLine.Command
import Phrasebook.CommandLine.Coverage
import Phrasebook.CommandLine.Listing
import Phrasebook.CommandLine.Outcome
import Phrasebook.CommandLine.Run
import Phrasebook.CommandLine.Table
import Phrasebook.CommandLine.Translation
import Phrasebook.CountRange
import Phrasebook.Dictionary
import Phrasebook.File
import Phrasebook.Gender
import Phrasebook.Json.Number
import Phrasebook.Json.Raw
import Phrasebook.Json.Reader
import Phrasebook.Json.Record
import Phrasebook.Json.Writer
import Phrasebook.Language.Direction
import Phrasebook.Language.Pattern
import Phrasebook.Language.Range
import Phrasebook.Language.Resolution
import Phrasebook.Localized
import Phrasebook.Main
import Phrasebook.Message
import Phrasebook.Number.Double
import Phrasebook.Number.Integer
import Phrasebook.Number.Power
import Phrasebook.Number.Reading
import Phrasebook.Number.Shortest
import Phrasebook.Proofs.AttributeSeparators
import Phrasebook.Proofs.CarriageReturns
import Phrasebook.Proofs.CheckedFiles
import Phrasebook.Proofs.Concatenation
import Phrasebook.Proofs.CountLanguage
import Phrasebook.Proofs.CountText
import Phrasebook.Proofs.CoveredNames
import Phrasebook.Proofs.DefinitionDocuments
import Phrasebook.Proofs.DictionaryEntries
import Phrasebook.Proofs.Documents
import Phrasebook.Proofs.EditDistance
import Phrasebook.Proofs.EntryMeaning
import Phrasebook.Proofs.FirstSeen
import Phrasebook.Proofs.JsonText
import Phrasebook.Proofs.KeyLayout
import Phrasebook.Proofs.KeyMarks
import Phrasebook.Proofs.KeyText
import Phrasebook.Proofs.LanguageChoice
import Phrasebook.Proofs.Letters
import Phrasebook.Proofs.LineAccounts
import Phrasebook.Proofs.LineEnds
import Phrasebook.Proofs.LoadOrder
import Phrasebook.Proofs.LocalizedAnswer
import Phrasebook.Proofs.LoneStar
import Phrasebook.Proofs.LowerCase
import Phrasebook.Proofs.MessageJson
import Phrasebook.Proofs.MessageText
import Phrasebook.Proofs.PatternLanguage
import Phrasebook.Proofs.QuotedLines
import Phrasebook.Proofs.QuotedText
import Phrasebook.Proofs.QuotedValues
import Phrasebook.Proofs.RankedLanguages
import Phrasebook.Proofs.Reloading
import Phrasebook.Proofs.Relocation
import Phrasebook.Proofs.RepeatedAdditions
import Phrasebook.Proofs.StoreAnswer
import Phrasebook.Proofs.StoreContents
import Phrasebook.Proofs.StoreRun
import Phrasebook.Proofs.Strictness
import Phrasebook.Proofs.SuggestedNames
import Phrasebook.Proofs.TemplateOutcomes
import Phrasebook.Proofs.TemplateText
import Phrasebook.Proofs.Trimming
import Phrasebook.Proofs.Truncation
import Phrasebook.Proofs.UnquotedValues
import Phrasebook.Proofs.UnrelatedMessages
import Phrasebook.Proofs.Upsert
import Phrasebook.Proofs.ValueText
import Phrasebook.Proofs.WholeNumbers
import Phrasebook.Proofs.Wildcard
import Phrasebook.Source.Definition
import Phrasebook.Source.Key
import Phrasebook.Source.KeyMarks
import Phrasebook.Source.Modifier
import Phrasebook.Source.Problem
import Phrasebook.Source.Quoted
import Phrasebook.Source.Reading
import Phrasebook.Source.Statement
import Phrasebook.Store.Basic
import Phrasebook.Store.Loading
import Phrasebook.Store.Resolve
import Phrasebook.Store.Selection
import Phrasebook.Store.Suggestion
import Phrasebook.Template.Engine
import Phrasebook.Template.Piece
import Phrasebook.Template.Segment
import Phrasebook.Text.Blank
import Phrasebook.Text.CaseTable
import Phrasebook.Text.Cut
import Phrasebook.Text.Debug
import Phrasebook.Text.Distance
import Phrasebook.Text.Emoji
import Phrasebook.Text.EmojiTable
import Phrasebook.Text.Ligature
import Phrasebook.Text.Lines
import Phrasebook.Text.Lowercase
import Phrasebook.Text.PrintTable
import Phrasebook.Text.Ranges
import Phrasebook.Text.ShapeTable
import Phrasebook.Text.Width
import Phrasebook.Value

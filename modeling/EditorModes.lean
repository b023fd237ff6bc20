import EditorModes.Arithmetic.Binary64
import EditorModes.Document.Basic
import EditorModes.Document.Codec
import EditorModes.Document.LineCache
import EditorModes.Document.Store
import EditorModes.Feature.Aggregate
import EditorModes.Feature.Answer
import EditorModes.Feature.Asking
import EditorModes.Feature.Cancellation
import EditorModes.Feature.Codec
import EditorModes.Feature.FanOut
import EditorModes.Feature.Provider
import EditorModes.Grammar.Basic
import EditorModes.Grammar.Codec
import EditorModes.Grammar.Compile
import EditorModes.Grammar.Decode
import EditorModes.Grammar.Pattern
import EditorModes.Grammar.RichEdit
import EditorModes.Json.Basic
import EditorModes.Json.Decode
import EditorModes.Json.Shape
import EditorModes.Lexer.Codec
import EditorModes.Lexer.Plain
import EditorModes.Lexer.Run
import EditorModes.Lexer.State
import EditorModes.Lexer.Tokenizer
import EditorModes.Lexer.Tokens
import EditorModes.Mode.Builtin
import EditorModes.Mode.Features
import EditorModes.Mode.JavaScript
import EditorModes.Mode.Less.Block
import EditorModes.Mode.Less.Codec
import EditorModes.Mode.Less.Color
import EditorModes.Mode.Less.Completion
import EditorModes.Mode.Less.Grammar
import EditorModes.Mode.Less.Indentation
import EditorModes.Mode.Less.Mask
import EditorModes.Mode.Less.Options
import EditorModes.Mode.Less.Provider
import EditorModes.Mode.Less.Stylesheet
import EditorModes.Mode.Less.ValueStep
import EditorModes.Mode.Less.Variable
import EditorModes.Mode.Less.Worker
import EditorModes.Mode.PlainText
import EditorModes.Mode.Service
import EditorModes.Mode.Set
import EditorModes.Mode.Workspace
import EditorModes.Proofs.Document.Incremental
import EditorModes.Proofs.Document.Retokenized
import EditorModes.Proofs.Document.Store
import EditorModes.Proofs.Feature.FanOut
import EditorModes.Proofs.Grammar.Anchoring
import EditorModes.Proofs.Grammar.Checked
import EditorModes.Proofs.Grammar.Compile
import EditorModes.Proofs.Grammar.Embedding
import EditorModes.Proofs.Grammar.Expansion
import EditorModes.Proofs.Grammar.Includes
import EditorModes.Proofs.Grammar.Splicing
import EditorModes.Proofs.Lexer.Agreement
import EditorModes.Proofs.Lexer.Closure
import EditorModes.Proofs.Lexer.Depth
import EditorModes.Proofs.Lexer.Fallback
import EditorModes.Proofs.Lexer.Guest
import EditorModes.Proofs.Lexer.Hosting
import EditorModes.Proofs.Lexer.Language
import EditorModes.Proofs.Lexer.Merge
import EditorModes.Proofs.Lexer.Nesting
import EditorModes.Proofs.Lexer.Order
import EditorModes.Proofs.Lexer.Piece
import EditorModes.Proofs.Lexer.Plain
import EditorModes.Proofs.Lexer.Reading
import EditorModes.Proofs.Lexer.Region
import EditorModes.Proofs.Lexer.Shift
import EditorModes.Proofs.Lexer.Step
import EditorModes.Proofs.Lexer.StepCount
import EditorModes.Proofs.Lexer.Unresolved
import EditorModes.Proofs.Mode.Activation
import EditorModes.Proofs.Mode.Balance
import EditorModes.Proofs.Mode.Less.Block
import EditorModes.Proofs.Mode.Less.Brace
import EditorModes.Proofs.Mode.Less.Forest
import EditorModes.Proofs.Mode.Less.Looking
import EditorModes.Proofs.Mode.Less.Mask
import EditorModes.Proofs.Mode.Less.MaskBytes
import EditorModes.Proofs.Mode.Less.Outline
import EditorModes.Proofs.Mode.Less.Session
import EditorModes.Proofs.Mode.Less.SlicedSheet
import EditorModes.Proofs.Mode.Less.Slicing
import EditorModes.Proofs.Mode.Less.Span
import EditorModes.Proofs.Mode.Less.Stylesheet
import EditorModes.Proofs.Mode.Less.Symbol
import EditorModes.Proofs.Mode.Less.Variable
import EditorModes.Proofs.Mode.Registrations
import EditorModes.Proofs.Mode.Validation
import EditorModes.Proofs.Protocol.SemanticTokens
import EditorModes.Proofs.Regex.Anchoring
import EditorModes.Proofs.Regex.Bracket
import EditorModes.Proofs.Regex.Enclosing
import EditorModes.Proofs.Regex.Escape
import EditorModes.Proofs.Regex.Layout
import EditorModes.Proofs.Regex.Parentheses
import EditorModes.Proofs.Regex.Part
import EditorModes.Proofs.Regex.Signs
import EditorModes.Proofs.Regex.Threads
import EditorModes.Proofs.Regex.Untying
import EditorModes.Proofs.Registry.Ledger
import EditorModes.Proofs.Server.Batch
import EditorModes.Proofs.Server.Completion
import EditorModes.Proofs.Server.Diagnostics
import EditorModes.Proofs.Server.Effects
import EditorModes.Proofs.Server.Freshness
import EditorModes.Proofs.Server.Interleaving
import EditorModes.Proofs.Server.Options
import EditorModes.Proofs.Server.Run
import EditorModes.Proofs.Text.Bytes
import EditorModes.Proofs.Text.Cursor
import EditorModes.Proofs.Text.Cut
import EditorModes.Proofs.Text.LineStarts
import EditorModes.Proofs.Text.Position
import EditorModes.Proofs.Worker.Election
import EditorModes.Proofs.Worker.Pool
import EditorModes.Protocol.Capability
import EditorModes.Protocol.Codec
import EditorModes.Protocol.Host
import EditorModes.Protocol.SemanticTokens
import EditorModes.Protocol.Shape
import EditorModes.Protocol.Uri
import EditorModes.Protocol.Value
import EditorModes.Regex.Alphabet
import EditorModes.Regex.Encoding
import EditorModes.Regex.Match
import EditorModes.Regex.Parser
import EditorModes.Regex.Program
import EditorModes.Regex.Property
import EditorModes.Regex.Size
import EditorModes.Regex.Syntax
import EditorModes.Registry.Basic
import EditorModes.Registry.Codec
import EditorModes.Server.Answer
import EditorModes.Server.Arrival
import EditorModes.Server.Batch
import EditorModes.Server.Handler
import EditorModes.Server.Interleaving
import EditorModes.Server.Job
import EditorModes.Server.Message
import EditorModes.Server.Method
import EditorModes.Server.Parameters
import EditorModes.Server.Signature
import EditorModes.Server.State
import EditorModes.Server.Validation
import EditorModes.Settings.Basic
import EditorModes.Settings.Discovery
import EditorModes.Settings.FileTree
import EditorModes.Settings.FileUri
import EditorModes.Text.Basic
import EditorModes.Text.CharSet
import EditorModes.Text.Cursor
import EditorModes.Text.Hexadecimal
import EditorModes.Text.Percent
import EditorModes.Text.Position
import EditorModes.Text.Property
import EditorModes.Text.Property.Age
import EditorModes.Text.Property.Binary
import EditorModes.Text.Property.CaseFold
import EditorModes.Text.Property.Category
import EditorModes.Text.Property.Script
import EditorModes.Text.Property.Segmentation
import EditorModes.Text.Punycode
import EditorModes.Toml.Lexical
import EditorModes.Toml.Parser
import EditorModes.Toml.Table
import EditorModes.Worker.Election
import EditorModes.Worker.Pool
import EditorModes.Worker.Registry
import EditorModes.Proofs.Feature.Report
import EditorModes.Proofs.Mode.Less.Indentation
import EditorModes.Proofs.Protocol.TextEdit
import EditorModes.Proofs.Mode.Less.Formatting
import EditorModes.Proofs.Document.Word
import EditorModes.Proofs.Mode.Less.Reindentation
import EditorModes.Proofs.Mode.Less.Depth
import EditorModes.Proofs.Mode.Less.Selector
import EditorModes.Proofs.Text.ByteOrder
import EditorModes.Proofs.Mode.Less.MaskLayout
import EditorModes.Proofs.Mode.PlainText
import EditorModes.Proofs.Arithmetic.Rounding
import EditorModes.Proofs.Arithmetic.Binary64
import EditorModes.Proofs.Mode.Less.Numeral
import EditorModes.Proofs.Mode.Less.ValueStep

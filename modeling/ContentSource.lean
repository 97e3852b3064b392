import ContentSource.CacheTime
import ContentSource.Charset.Basic
import ContentSource.Charset.Chinese
import ContentSource.Charset.Codec
import ContentSource.Charset.Decoder
import ContentSource.Charset.Index
import ContentSource.Charset.Index.Big5
import ContentSource.Charset.Index.EucKr
import ContentSource.Charset.Index.Gb18030
import ContentSource.Charset.Index.Gb18030Ranges
import ContentSource.Charset.Index.Jis0208
import ContentSource.Charset.Index.Jis0212
import ContentSource.Charset.Japanese
import ContentSource.Charset.Korean
import ContentSource.Charset.Label
import ContentSource.Charset.SingleByteTable
import ContentSource.CommandLine.Outcome
import ContentSource.CommandLine.Overview
import ContentSource.CommandLine.Reader
import ContentSource.CommandLine.Run
import ContentSource.CommandLine.Usage
import ContentSource.Config
import ContentSource.DataType
import ContentSource.Decimal.Shortest
import ContentSource.Engine
import ContentSource.Error
import ContentSource.Event
import ContentSource.Fields
import ContentSource.Fingerprint
import ContentSource.FormText
import ContentSource.Host
import ContentSource.Json.Basic
import ContentSource.Json.Printer
import ContentSource.Link
import ContentSource.Main
import ContentSource.Pattern.Basic
import ContentSource.Pattern.Bracket
import ContentSource.Pattern.Class
import ContentSource.Pattern.Escape
import ContentSource.Pattern.Part
import ContentSource.Pattern.Reader
import ContentSource.Pipeline
import ContentSource.Plugin.Document
import ContentSource.Plugin.Filter
import ContentSource.Plugin.Meta
import ContentSource.Plugin.Node
import ContentSource.Plugin.Nodes
import ContentSource.Proofs.Actions
import ContentSource.Proofs.Engine.Causes
import ContentSource.Proofs.Engine.Content
import ContentSource.Proofs.Engine.Effects
import ContentSource.Proofs.Engine.History
import ContentSource.Proofs.Engine.Loading
import ContentSource.Proofs.Engine.Reports
import ContentSource.Proofs.Engine.Requests
import ContentSource.Proofs.Pipeline.Chain
import ContentSource.Proofs.Pipeline.Exact
import ContentSource.Proofs.Script.HookErrors
import ContentSource.Request
import ContentSource.Response
import ContentSource.Script.Access
import ContentSource.Script.Convert
import ContentSource.Script.Expression
import ContentSource.Script.Grammar.Basic
import ContentSource.Script.Grammar.Expression
import ContentSource.Script.Grammar.Function
import ContentSource.Script.Grammar.Member
import ContentSource.Script.Grammar.Statement
import ContentSource.Script.Grammar.Target
import ContentSource.Script.Hook
import ContentSource.Script.Interpreter
import ContentSource.Script.Iteration
import ContentSource.Script.JsonText
import ContentSource.Script.JsonTree
import ContentSource.Script.Kind
import ContentSource.Script.Library
import ContentSource.Script.Library.Array
import ContentSource.Script.Library.Function
import ContentSource.Script.Library.HostCall
import ContentSource.Script.Library.Number
import ContentSource.Script.Library.Object
import ContentSource.Script.Library.String
import ContentSource.Script.Library.Uri
import ContentSource.Script.Machine
import ContentSource.Script.Names
import ContentSource.Script.Number
import ContentSource.Script.Operator
import ContentSource.Script.Reader
import ContentSource.Script.Realm
import ContentSource.Script.Report
import ContentSource.Script.Statement
import ContentSource.Script.Token
import ContentSource.Script.Tree
import ContentSource.Script.Value
import ContentSource.Session
import ContentSource.Template
import ContentSource.Text.Blank
import ContentSource.Text.Case
import ContentSource.Text.CaseTable
import ContentSource.Text.Category
import ContentSource.Text.CategoryTable
import ContentSource.Text.DecimalDigit
import ContentSource.Text.Numeral
import ContentSource.Text.Order
import ContentSource.Text.Quoted
import ContentSource.Text.Ranges
import ContentSource.Text.ScriptTable
import ContentSource.Text.Utf16
import ContentSource.Text.Utf8
import ContentSource.Toml.Basic
import ContentSource.Toml.Reader
import ContentSource.Xml.Basic
import ContentSource.Xml.Reader
import ContentSource.Proofs.Engine.Release
import ContentSource.Proofs.Script.HookResults
import ContentSource.Proofs.Engine.Charsets
import ContentSource.Proofs.Plugin.Acceptance
import ContentSource.Proofs.Plugin.Groups
import ContentSource.Proofs.Link
import ContentSource.Proofs.Text.Utf8
import ContentSource.Proofs.Text.Utf16
import ContentSource.Proofs.Charset.Ascii
import ContentSource.Proofs.Engine.Literals
import ContentSource.Proofs.Fields
import ContentSource.Proofs.Script.Objects
import ContentSource.Proofs.Script.Looking
import ContentSource.Proofs.Script.Outcomes
import ContentSource.Proofs.Script.Reading
import ContentSource.Proofs.Script.OwnTexts
import ContentSource.Proofs.Script.Contained
import ContentSource.Proofs.Script.HookOutcomes
import ContentSource.Proofs.Script.RequestObjects
import ContentSource.Proofs.Script.RoundTrip
import ContentSource.Proofs.FormText
import ContentSource.Proofs.FormText.Escapes
import ContentSource.Proofs.FormText.Literal
import ContentSource.Proofs.Request.Parts
import ContentSource.Proofs.Request.Blocks
import ContentSource.Proofs.Request.Body
import ContentSource.Proofs.Request.Merging
import ContentSource.Proofs.Template.Occurrences
import ContentSource.Proofs.Template.Passes
import ContentSource.Proofs.Template.AtOnce
import ContentSource.Proofs.Template.Unchanged
import ContentSource.Proofs.Engine.Addresses
import ContentSource.Proofs.Engine.Steering
import ContentSource.Proofs.Text.Numeral
import ContentSource.Proofs.CacheTime
import ContentSource.Proofs.Plugin.Attributes
import ContentSource.Proofs.Script.Nesting
import ContentSource.Proofs.Script.Requiring
import ContentSource.Proofs.Engine.Unwinding
import ContentSource.Proofs.Script.PlainRequirement
import ContentSource.Proofs.Script.StackLine
import ContentSource.Proofs.Script.ErrorReport

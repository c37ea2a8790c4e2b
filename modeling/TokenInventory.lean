import TokenInventory.Action.Basic
import TokenInventory.Action.Change
import TokenInventory.Action.Listing
import TokenInventory.Action.Outcome
import TokenInventory.Action.Performer
import TokenInventory.Bytes.Base32
import TokenInventory.Bytes.Base64
import TokenInventory.Bytes.Hex
import TokenInventory.Calendar.Age
import TokenInventory.Calendar.Date
import TokenInventory.Calendar.Format
import TokenInventory.Calendar.Instant
import TokenInventory.Calendar.Spelling
import TokenInventory.Calendar.Zone
import TokenInventory.Cipher.Aes
import TokenInventory.Cipher.Entropy
import TokenInventory.Cipher.Gcm
import TokenInventory.Cipher.Sealing
import TokenInventory.Cipher.Sha256
import TokenInventory.CommandLine.Compile
import TokenInventory.CommandLine.Config
import TokenInventory.CommandLine.Error
import TokenInventory.CommandLine.Form
import TokenInventory.CommandLine.Help
import TokenInventory.CommandLine.Invocation
import TokenInventory.CommandLine.Program
import TokenInventory.Criteria.Basic
import TokenInventory.Criteria.Comparison
import TokenInventory.Criteria.Expression
import TokenInventory.Criteria.Filter
import TokenInventory.Exchange.Document
import TokenInventory.Exchange.Entry
import TokenInventory.Exchange.Error
import TokenInventory.Exchange.Row
import TokenInventory.Exchange.Seed
import TokenInventory.Json.Basic
import TokenInventory.Json.Reader
import TokenInventory.Json.Record
import TokenInventory.Json.Writer
import TokenInventory.KeyContainer.Element
import TokenInventory.KeyContainer.Escape
import TokenInventory.KeyContainer.Reader
import TokenInventory.KeyContainer.Writer
import TokenInventory.Log.Event
import TokenInventory.Log.Filter
import TokenInventory.Log.Line
import TokenInventory.Main
import TokenInventory.Pattern.Basic
import TokenInventory.Pattern.CharClass
import TokenInventory.Pattern.Reader
import TokenInventory.Proofs.Action.Calls
import TokenInventory.Proofs.Action.Change
import TokenInventory.Proofs.Action.Export
import TokenInventory.Proofs.Action.Frame
import TokenInventory.Proofs.Action.Items
import TokenInventory.Proofs.Action.Listing
import TokenInventory.Proofs.Action.Repetition
import TokenInventory.Proofs.Action.Tally
import TokenInventory.Proofs.Bytes.Base32
import TokenInventory.Proofs.Bytes.Base32Text
import TokenInventory.Proofs.Bytes.Base64
import TokenInventory.Proofs.Bytes.Hex
import TokenInventory.Proofs.Calendar.Age
import TokenInventory.Proofs.Calendar.Denotation
import TokenInventory.Proofs.Calendar.Numbers
import TokenInventory.Proofs.Calendar.Offset
import TokenInventory.Proofs.Calendar.Parts
import TokenInventory.Proofs.Calendar.Range
import TokenInventory.Proofs.Calendar.Spelled
import TokenInventory.Proofs.Cipher.Sealing
import TokenInventory.Proofs.Criteria.Agreement
import TokenInventory.Proofs.Criteria.Conjunction
import TokenInventory.Proofs.Criteria.FirstOperator
import TokenInventory.Proofs.Criteria.Flag
import TokenInventory.Proofs.Criteria.Grammar
import TokenInventory.Proofs.Criteria.LastAuthentication
import TokenInventory.Proofs.Criteria.Trichotomy
import TokenInventory.Proofs.Exchange.Row
import TokenInventory.Proofs.Exchange.Seed
import TokenInventory.Proofs.Json.Record
import TokenInventory.Proofs.Json.RoundTrip
import TokenInventory.Proofs.Json.Scalar
import TokenInventory.Proofs.KeyContainer.Attribute
import TokenInventory.Proofs.KeyContainer.Container
import TokenInventory.Proofs.KeyContainer.Entity
import TokenInventory.Proofs.KeyContainer.Escape
import TokenInventory.Proofs.KeyContainer.Forgery
import TokenInventory.Proofs.KeyContainer.Layout
import TokenInventory.Proofs.KeyContainer.Markup
import TokenInventory.Proofs.KeyContainer.Package
import TokenInventory.Proofs.KeyContainer.Policy
import TokenInventory.Proofs.KeyContainer.Replacement
import TokenInventory.Proofs.KeyContainer.Search
import TokenInventory.Proofs.KeyContainer.Signature
import TokenInventory.Proofs.KeyContainer.Soundness
import TokenInventory.Proofs.KeyContainer.Tag
import TokenInventory.Proofs.KeyContainer.Written
import TokenInventory.Proofs.Pattern.Plain
import TokenInventory.Proofs.Run.Addition
import TokenInventory.Proofs.Run.Calls
import TokenInventory.Proofs.Run.Chunking
import TokenInventory.Proofs.Run.Export
import TokenInventory.Proofs.Run.Forgery
import TokenInventory.Proofs.Run.Hindrance
import TokenInventory.Proofs.Run.Import
import TokenInventory.Proofs.Run.ImportChannel
import TokenInventory.Proofs.Run.KnownRealms
import TokenInventory.Proofs.Run.Loop
import TokenInventory.Proofs.Run.Mutation
import TokenInventory.Proofs.Run.Notes
import TokenInventory.Proofs.Run.OwnerRealms
import TokenInventory.Proofs.Run.Plain
import TokenInventory.Proofs.Run.Refusal
import TokenInventory.Proofs.Run.Reimport
import TokenInventory.Proofs.Run.Repetition
import TokenInventory.Proofs.Run.Restoration
import TokenInventory.Proofs.Run.Results
import TokenInventory.Proofs.Run.Rows
import TokenInventory.Proofs.Run.Selected
import TokenInventory.Proofs.Run.Summary
import TokenInventory.Proofs.Run.Totals
import TokenInventory.Proofs.Run.Update
import TokenInventory.Proofs.Selection.Batch
import TokenInventory.Proofs.Selection.Choice
import TokenInventory.Proofs.Selection.Criteria
import TokenInventory.Proofs.Selection.Interference
import TokenInventory.Proofs.Selection.Recency
import TokenInventory.Proofs.Selection.Rest
import TokenInventory.Proofs.SortedMap
import TokenInventory.Proofs.Store.Calls
import TokenInventory.Proofs.Store.Commit
import TokenInventory.Proofs.Store.Document
import TokenInventory.Proofs.Store.Durability
import TokenInventory.Proofs.Store.Table
import TokenInventory.Proofs.Text.Blank
import TokenInventory.Proofs.Text.ByteOffset
import TokenInventory.Proofs.Text.ByteOrder
import TokenInventory.Proofs.Text.Decimal
import TokenInventory.Proofs.Text.Pieces
import TokenInventory.Proofs.Token.Record
import TokenInventory.Run.Basic
import TokenInventory.Run.Import
import TokenInventory.Run.Transcript
import TokenInventory.Selection.Basic
import TokenInventory.Selection.Scan
import TokenInventory.SortedMap
import TokenInventory.Store.Admission
import TokenInventory.Store.Basic
import TokenInventory.Store.Document
import TokenInventory.Text.Basic
import TokenInventory.Text.Blank
import TokenInventory.Text.Decimal
import TokenInventory.Token.Basic
import TokenInventory.Token.Record
import TokenInventory.Token.User
import TokenInventory.Token.Value
import TokenInventory.Unicode.BinaryProperty
import TokenInventory.Unicode.CaseFolding
import TokenInventory.Unicode.Category
import TokenInventory.Unicode.Packed
import TokenInventory.Unicode.Script
import TokenInventory.Yaml.Cursor
import TokenInventory.Yaml.Lexeme
import TokenInventory.Yaml.Node
import TokenInventory.Yaml.Record
import TokenInventory.Yaml.Scalar
import TokenInventory.Yaml.Token
import TokenInventory.Yaml.Writer

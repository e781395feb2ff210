import UnitLint.Asset.Basic
import UnitLint.Asset.Blurbs
import UnitLint.Asset.Settings
import UnitLint.Asset.Tables
import UnitLint.Catalog.Basic
import UnitLint.Catalog.Keyword
import UnitLint.Catalog.Listing
import UnitLint.Decimal.Notation
import UnitLint.Decimal.Reading
import UnitLint.Decimal.Shortest
import UnitLint.Document.Blurb
import UnitLint.Document.FileTree
import UnitLint.Document.Path
import UnitLint.Document.Store
import UnitLint.Event
import UnitLint.Host.Basic
import UnitLint.Host.Ipv4
import UnitLint.Host.Ipv6
import UnitLint.Idna.Bidi
import UnitLint.Idna.Bidi.Table
import UnitLint.Idna.Composition
import UnitLint.Idna.Composition.Table
import UnitLint.Idna.Domain
import UnitLint.Idna.Joining
import UnitLint.Idna.Joining.Table
import UnitLint.Idna.Mapping
import UnitLint.Idna.Mapping.Table
import UnitLint.Idna.Punycode
import UnitLint.Inspection
import UnitLint.Json.Fault
import UnitLint.Json.Item
import UnitLint.Json.Member
import UnitLint.Json.Number
import UnitLint.Json.Reader
import UnitLint.Json.Scan
import UnitLint.Json.Skip
import UnitLint.Proofs.Asset.Lookup
import UnitLint.Proofs.Catalog.Basic
import UnitLint.Proofs.Catalog.Meaning
import UnitLint.Proofs.Catalog.Spelling
import UnitLint.Proofs.Catalog.Writing
import UnitLint.Proofs.Document.Answer
import UnitLint.Proofs.Document.Blurb
import UnitLint.Proofs.Document.Components
import UnitLint.Proofs.Document.Finding
import UnitLint.Proofs.Document.Listing
import UnitLint.Proofs.Document.Missing
import UnitLint.Proofs.Document.Path
import UnitLint.Proofs.Document.Place
import UnitLint.Proofs.Document.Walk
import UnitLint.Proofs.Inspection.Batches
import UnitLint.Proofs.Inspection.Extensions
import UnitLint.Proofs.Inspection.Verdict
import UnitLint.Proofs.Json.Extent
import UnitLint.Proofs.Json.Grammar
import UnitLint.Proofs.Json.Meaning
import UnitLint.Proofs.Json.Numerals
import UnitLint.Proofs.Json.Objects
import UnitLint.Proofs.Json.Quoted
import UnitLint.Proofs.Json.Respacing
import UnitLint.Proofs.Json.Skipping
import UnitLint.Proofs.Json.Spelling
import UnitLint.Proofs.Json.Strings
import UnitLint.Proofs.LastWins
import UnitLint.Proofs.Record.Grammar
import UnitLint.Proofs.Record.Table
import UnitLint.Proofs.Registry.Decoding
import UnitLint.Proofs.Registry.Directory
import UnitLint.Proofs.Registry.Endings
import UnitLint.Proofs.Registry.Loading
import UnitLint.Proofs.Registry.Log
import UnitLint.Proofs.Registry.Malformed
import UnitLint.Proofs.Registry.Queries
import UnitLint.Proofs.Registry.Respelling
import UnitLint.Proofs.Registry.Spelling
import UnitLint.Proofs.Registry.Truncation
import UnitLint.Proofs.Session.Frozen
import UnitLint.Proofs.Session.InMemory
import UnitLint.Proofs.Session.Problems
import UnitLint.Proofs.Session.Requests
import UnitLint.Proofs.Text.Digit
import UnitLint.Proofs.Text.Edits
import UnitLint.Proofs.Text.Endings
import UnitLint.Proofs.Text.Runs
import UnitLint.Proofs.Text.Spans
import UnitLint.Proofs.Text.Utf8
import UnitLint.Proofs.Uri.Address
import UnitLint.Proofs.Uri.LetterHosts
import UnitLint.Proofs.Validator.BareAddresses
import UnitLint.Proofs.Validator.Booleans
import UnitLint.Proofs.Validator.Entries
import UnitLint.Proofs.Validator.Grammar
import UnitLint.Proofs.Validator.ManualPages
import UnitLint.Proofs.Validator.Messages
import UnitLint.Proofs.Validator.Modes
import UnitLint.Proofs.Validator.PlainReferences
import UnitLint.Proofs.Validator.References
import UnitLint.Proofs.Validator.SchemeCase
import UnitLint.Proofs.Validator.Suggestion
import UnitLint.Proofs.Validator.Surroundings
import UnitLint.Record.Basic
import UnitLint.Record.Reading
import UnitLint.Record.Table
import UnitLint.Registry.Basic
import UnitLint.Registry.Source
import UnitLint.Section
import UnitLint.Session.Basic
import UnitLint.Session.Step
import UnitLint.Setting
import UnitLint.Text.Blank
import UnitLint.Text.ByteOrder
import UnitLint.Text.Decode
import UnitLint.Text.Digit
import UnitLint.Text.EditDistance
import UnitLint.Text.Lines
import UnitLint.Text.Quoted
import UnitLint.Text.Quoted.Table
import UnitLint.Text.Utf8
import UnitLint.Text.WordChar
import UnitLint.Text.WordChar.Table
import UnitLint.Traced
import UnitLint.Unicode.CodeTable
import UnitLint.Uri.Authority
import UnitLint.Uri.Basic
import UnitLint.Uri.Scheme
import UnitLint.Validator.Basic
import UnitLint.Validator.Boolean
import UnitLint.Validator.Documentation
import UnitLint.Validator.Mode
import UnitLint.Validator.Rejection
import UnitLint.Validator.Vocabulary

import Conform.BuildError
import Conform.Config.Basic
import Conform.Config.Reader
import Conform.Context
import Conform.Date.Calendar
import Conform.Date.Instant
import Conform.Date.Reader
import Conform.Defaults
import Conform.Event
import Conform.Fields
import Conform.Format.Address
import Conform.Format.Basic
import Conform.Format.Domain.Basic
import Conform.Format.Domain.Mapping
import Conform.Format.Host
import Conform.Format.Punycode
import Conform.Format.Url
import Conform.Format.Uuid
import Conform.Issue
import Conform.Json.Basic
import Conform.Json.Writer
import Conform.Json.Reader
import Conform.Kind
import Conform.Number.Basic
import Conform.Number.Double
import Conform.Number.Numeral
import Conform.Number.Shortest
import Conform.Path
import Conform.Pattern.Anchor
import Conform.Pattern.Automaton
import Conform.Pattern.Basic
import Conform.Pattern.ClassReader
import Conform.Pattern.Error
import Conform.Pattern.Escape
import Conform.Pattern.Expr
import Conform.Pattern.Meaning
import Conform.Pattern.NamedClass
import Conform.Pattern.Reader
import Conform.Pattern.Tree
import Conform.Pattern.Utf8
import Conform.Proofs.Date.Calendar
import Conform.Proofs.Date.RoundTrip
import Conform.Proofs.Fields
import Conform.Proofs.Format.Uuid
import Conform.Proofs.Json.Same
import Conform.Proofs.Schema.Parts
import Conform.Proofs.Schema.Phases
import Conform.Proofs.Schema.Rebuild
import Conform.Proofs.Schema.Relaxation
import Conform.Proofs.Schema.Run
import Conform.Proofs.Schema.Satisfies
import Conform.Proofs.Schema.Soundness
import Conform.Proofs.Schema.Stability
import Conform.Proofs.Schema.Strictness
import Conform.Proofs.Standard.Coercion
import Conform.Proofs.Standard.Handlers
import Conform.Proofs.Standard.Settling
import Conform.Proofs.Text.Blank
import Conform.Proofs.Text.Digits
import Conform.Schema.Basic
import Conform.Schema.Build
import Conform.Schema.Describe
import Conform.Schema.Dump
import Conform.Schema.Edit
import Conform.Schema.Handler
import Conform.Schema.Node
import Conform.Schema.Run
import Conform.Schema.Visit
import Conform.Standard.Basic
import Conform.Standard.Constraints
import Conform.Table.Basic
import Conform.Text.Age
import Conform.Text.Words
import Conform.Text.Break
import Conform.Text.CaseFolding
import Conform.Text.Category
import Conform.Text.CharSet
import Conform.Text.Composition
import Conform.Text.Direction
import Conform.Text.Dump
import Conform.Text.Joining
import Conform.Text.Property
import Conform.Text.RunLength
import Conform.Text.Script
import Conform.Proofs.Schema.Placement
import Conform.Proofs.Path
import Conform.Proofs.Schema.Places
import Conform.Proofs.Schema.Findings
import Conform.Proofs.Table.Registration
import Conform.Proofs.Context.Lifecycle
import Conform.Proofs.Schema.Related
import Conform.Proofs.Context.Obtained
import Conform.Proofs.Schema.Membership
import Conform.Proofs.Table.Isolation
import Conform.Proofs.Table.Exchange
import Conform.Proofs.Schema.Frame
import Conform.Proofs.Schema.Encoded
import Conform.Proofs.Schema.Conditional
import Conform.Proofs.Schema.Consumption
import Conform.Proofs.Schema.Projection
import Conform.Proofs.Schema.Selection
import Conform.Proofs.Schema.Scalar
import Conform.Proofs.Number.Whole
import Conform.Proofs.Date.Canonical
import Conform.Proofs.Date.Reading
import Conform.Proofs.Schema.Dates
import Conform.Proofs.Number.Value
import Conform.Proofs.Number.Nearest
import Conform.Proofs.Number.Rounding
import Conform.Proofs.Number.Numeral
import Conform.Proofs.Number.Spelling
import Conform.Proofs.Number.Reading
import Conform.Proofs.Schema.Numerals
import Conform.Proofs.Schema.Bounds
import Conform.Proofs.Schema.Options
import Conform.Proofs.Schema.Lengths
import Conform.Proofs.Schema.Description
import Conform.Proofs.Json.DirectText
import Conform.Proofs.Pattern.Matching
import Conform.Proofs.Pattern.Language
import Conform.Proofs.Format.Email
import Conform.Proofs.Schema.Formats
import Conform.Proofs.Json.Head
import Conform.Proofs.Config.Record
import Conform.Proofs.Config.Scanning
import Conform.Proofs.Config.Agreement
import Conform.Proofs.Date.Signed
import Conform.Proofs.Standard.Idempotence
import Conform.Proofs.Path.Dotted
import Conform.Proofs.Schema.Doubles

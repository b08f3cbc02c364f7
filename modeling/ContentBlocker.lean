import ContentBlocker.Allowlist.Commas
import ContentBlocker.Allowlist.Edit
import ContentBlocker.Allowlist.Rules
import ContentBlocker.CommandLine.Arguments
import ContentBlocker.CommandLine.Commands
import ContentBlocker.CommandLine.FilePath
import ContentBlocker.CommandLine.FileSystem
import ContentBlocker.CommandLine.FilterFiles
import ContentBlocker.CommandLine.Flags
import ContentBlocker.CommandLine.Host
import ContentBlocker.Conversion.Basic
import ContentBlocker.Conversion.Options
import ContentBlocker.Conversion.Statistics
import ContentBlocker.Conversion.Verdict
import ContentBlocker.Domain.Scope
import ContentBlocker.Domain.Suffixes
import ContentBlocker.Entry.Action
import ContentBlocker.Entry.Basic
import ContentBlocker.Entry.Compile
import ContentBlocker.Entry.Rejection
import ContentBlocker.Entry.ResourceTypes
import ContentBlocker.Entry.Trigger
import ContentBlocker.Entry.Wire
import ContentBlocker.Json.Basic
import ContentBlocker.Json.Reader
import ContentBlocker.Json.Writer
import ContentBlocker.Main
import ContentBlocker.Number.Basic
import ContentBlocker.Number.Reader
import ContentBlocker.Number.Writer
import ContentBlocker.Regex.CharSet
import ContentBlocker.Regex.Dialect
import ContentBlocker.Regex.Escape
import ContentBlocker.Regex.Identifier
import ContentBlocker.Regex.IdentifierRanges
import ContentBlocker.Regex.Syntax
import ContentBlocker.Regex.Token
import ContentBlocker.Regex.Tree
import ContentBlocker.Rule.Basic
import ContentBlocker.Rule.ContentType
import ContentBlocker.Rule.Cosmetic
import ContentBlocker.Rule.DomainList
import ContentBlocker.Rule.Error
import ContentBlocker.Rule.Modifier
import ContentBlocker.Rule.Network
import ContentBlocker.Rule.Reader
import ContentBlocker.Rule.Scriptlet
import ContentBlocker.Text.Blank
import ContentBlocker.Text.CharRanges
import ContentBlocker.Text.CodeUnits
import ContentBlocker.Text.Digits
import ContentBlocker.Text.LetterCase
import ContentBlocker.Text.Lines
import ContentBlocker.Text.Lowercase
import ContentBlocker.Text.Search
import ContentBlocker.UrlPattern.Basic
import ContentBlocker.UrlPattern.Host
import ContentBlocker.Proofs.Allowlist.Addition
import ContentBlocker.Proofs.Allowlist.CommaRuns
import ContentBlocker.Proofs.Allowlist.Commas
import ContentBlocker.Proofs.Allowlist.EditRuns
import ContentBlocker.Proofs.Allowlist.EntryEdit
import ContentBlocker.Proofs.Allowlist.Gaps
import ContentBlocker.Proofs.Allowlist.HostRule
import ContentBlocker.Proofs.Allowlist.LineEntries
import ContentBlocker.Proofs.Allowlist.Lookup
import ContentBlocker.Proofs.Allowlist.Removal
import ContentBlocker.Proofs.Allowlist.Replacement
import ContentBlocker.Proofs.Allowlist.Restore
import ContentBlocker.Proofs.Allowlist.RuleEntries
import ContentBlocker.Proofs.Allowlist.SiteList
import ContentBlocker.Proofs.Allowlist.SiteRule
import ContentBlocker.Proofs.Allowlist.Squeezed
import ContentBlocker.Proofs.CommandLine.DistinctPaths
import ContentBlocker.Proofs.CommandLine.FileChanges
import ContentBlocker.Proofs.CommandLine.FilterDirectory
import ContentBlocker.Proofs.CommandLine.FlagSpelling
import ContentBlocker.Proofs.CommandLine.FlagValues
import ContentBlocker.Proofs.CommandLine.LimitFlag
import ContentBlocker.Proofs.CommandLine.ListOutputs
import ContentBlocker.Proofs.CommandLine.Outcome
import ContentBlocker.Proofs.CommandLine.ReportText
import ContentBlocker.Proofs.CommandLine.SiteEdits
import ContentBlocker.Proofs.CommandLine.Writability
import ContentBlocker.Proofs.Conversion.Accounting
import ContentBlocker.Proofs.Conversion.AdvancedBlocking
import ContentBlocker.Proofs.Conversion.AdvancedOrdering
import ContentBlocker.Proofs.Conversion.Limit
import ContentBlocker.Proofs.Conversion.LineByLine
import ContentBlocker.Proofs.Conversion.ModifierNames
import ContentBlocker.Proofs.Conversion.Ordering
import ContentBlocker.Proofs.Conversion.Strict
import ContentBlocker.Proofs.Domain.Expansion
import ContentBlocker.Proofs.Domain.Names
import ContentBlocker.Proofs.Entry.Compile
import ContentBlocker.Proofs.Entry.Decoding
import ContentBlocker.Proofs.Entry.DomainScope
import ContentBlocker.Proofs.Entry.Obstacles
import ContentBlocker.Proofs.Entry.Payload
import ContentBlocker.Proofs.Entry.Placement
import ContentBlocker.Proofs.Entry.Reordering
import ContentBlocker.Proofs.Entry.ResourceKinds
import ContentBlocker.Proofs.Entry.UrlFilter
import ContentBlocker.Proofs.Entry.WellFormed
import ContentBlocker.Proofs.Entry.WireForm
import ContentBlocker.Proofs.FirstOccurrences
import ContentBlocker.Proofs.Json.ReadBack
import ContentBlocker.Proofs.Json.Tokens
import ContentBlocker.Proofs.Number.Numeral
import ContentBlocker.Proofs.Number.Rounding
import ContentBlocker.Proofs.Regex.Bounds
import ContentBlocker.Proofs.Regex.Constructs
import ContentBlocker.Proofs.Regex.Extent
import ContentBlocker.Proofs.Regex.FirstConstruct
import ContentBlocker.Proofs.Regex.Matching
import ContentBlocker.Proofs.Regex.Scan
import ContentBlocker.Proofs.Regex.Texts
import ContentBlocker.Proofs.Rule.ClosingSlash
import ContentBlocker.Proofs.Rule.Reading
import ContentBlocker.Proofs.Rule.RegexBody
import ContentBlocker.Proofs.Rule.Reordering
import ContentBlocker.Proofs.Rule.ScriptletCalls
import ContentBlocker.Proofs.Rule.Separator
import ContentBlocker.Proofs.Rule.Spelling
import ContentBlocker.Proofs.Rule.WrittenCosmetic
import ContentBlocker.Proofs.Rule.WrittenNetwork
import ContentBlocker.Proofs.Text.CodeUnits
import ContentBlocker.Proofs.Text.Lines
import ContentBlocker.Proofs.Text.Lowercase
import ContentBlocker.Proofs.Text.Occurrence
import ContentBlocker.Proofs.UrlPattern.Filter
import ContentBlocker.Proofs.UrlPattern.HostName
import ContentBlocker.Proofs.UrlPattern.Meaning

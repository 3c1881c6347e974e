import FolderTag.Main
import FolderTag.Matching.Applicability
import FolderTag.Pattern.Cache
import FolderTag.Rule.Arguments
import FolderTag.Proofs.Outcome
import FolderTag.Proofs.Regex.Language
import FolderTag.Proofs.Regex.Forward
import FolderTag.Proofs.Regex.Reading
import FolderTag.Proofs.Pattern.GlobSource
import FolderTag.Proofs.Pattern.GlobReading
import FolderTag.Proofs.Pattern.FlagText
import FolderTag.Proofs.Mapping.Conversion
import FolderTag.Proofs.Pattern.GlobLanguage
import FolderTag.Proofs.Mapping.RoundTrip
import FolderTag.Proofs.Text.CaseMapping
import FolderTag.Proofs.Transform.Convention
import FolderTag.Proofs.Mapping.Mapper
import FolderTag.Proofs.Pattern.Cache
import FolderTag.Proofs.Matching.Completion
import FolderTag.Proofs.Mapping.Completion
import FolderTag.Proofs.Matching.Applicability
import FolderTag.Proofs.Number.Comparison
import FolderTag.Proofs.Settings.Stored
import FolderTag.Proofs.Document.Names
import FolderTag.Proofs.Document.Yaml.Reader
import FolderTag.Proofs.Settings.Layers
import FolderTag.Proofs.Settings.Schema
import FolderTag.Proofs.Settings.Operation
import FolderTag.Proofs.Rule.Completion
import FolderTag.Proofs.Settings.Completion
import FolderTag.Proofs.Settings.Sections
import FolderTag.Proofs.Settings.Typed
import FolderTag.Proofs.Command.Session
import FolderTag.Proofs.Matching.Best
import FolderTag.Proofs.Matching.Conflicts
import FolderTag.Proofs.Command.Listing
import FolderTag.Proofs.Mapping.Tags
import FolderTag.Proofs.Pattern.GlobWords
import FolderTag.Proofs.Number.Rounding
import FolderTag.Proofs.Number.Packing
import FolderTag.Proofs.Matching.Confidence
import FolderTag.Proofs.Matching.Exact
import FolderTag.Proofs.Pattern.GlobValidity
import FolderTag.Proofs.Pattern.Dialect
import FolderTag.Proofs.Pattern.Restriction
import FolderTag.Proofs.Transform.Validity
import FolderTag.Proofs.Transform.Replacement
import FolderTag.Proofs.Rule.Lossless
import FolderTag.Proofs.Transform.TagForm
import FolderTag.Proofs.Settings.Contents
import FolderTag.Proofs.Settings.MergedView
import FolderTag.Proofs.Settings.Writing
import FolderTag.Proofs.Transform.Identifier
import FolderTag.Proofs.Transform.Reversal
import FolderTag.Proofs.Transform.Rederivation
import FolderTag.Proofs.Transform.Emoji
import FolderTag.Proofs.Transform.NumberGrammar
import FolderTag.Proofs.Log.Entry

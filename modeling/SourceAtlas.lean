import SourceAtlas.Act
import SourceAtlas.Adapter
import SourceAtlas.Category
import SourceAtlas.Cipher.Block
import SourceAtlas.Cipher.Gcm
import SourceAtlas.Classification
import SourceAtlas.Collection
import SourceAtlas.CommandLine.Arguments
import SourceAtlas.CommandLine.Command
import SourceAtlas.CommandLine.Execution
import SourceAtlas.Decimal.Binary64
import SourceAtlas.Decimal.Numeral
import SourceAtlas.Decimal.Shortest
import SourceAtlas.Detection
import SourceAtlas.Digest.Hex
import SourceAtlas.Digest.KeyStretch
import SourceAtlas.Digest.Sha256
import SourceAtlas.Digest.XxHash
import SourceAtlas.Entry
import SourceAtlas.Envelope
import SourceAtlas.Failure
import SourceAtlas.FileTree
import SourceAtlas.Glob
import SourceAtlas.Index
import SourceAtlas.Indexing
import SourceAtlas.Journal
import SourceAtlas.Main
import SourceAtlas.Noted
import SourceAtlas.Parsing.Automaton
import SourceAtlas.Parsing.Forest
import SourceAtlas.Parsing.Grammar
import SourceAtlas.Path
import SourceAtlas.Pattern
import SourceAtlas.Profiles
import SourceAtlas.Ranking
import SourceAtlas.Registry
import SourceAtlas.Rule
import SourceAtlas.Scan
import SourceAtlas.Section
import SourceAtlas.Service.Answer
import SourceAtlas.Service.Payload
import SourceAtlas.Service.Target
import SourceAtlas.Settings
import SourceAtlas.Site
import SourceAtlas.Slug
import SourceAtlas.Source.Dart
import SourceAtlas.Source.GoGrammar
import SourceAtlas.Source.GoLines
import SourceAtlas.Source.GoOutline
import SourceAtlas.Source.GoSymbols
import SourceAtlas.Source.GoToken
import SourceAtlas.Source.PythonDepth
import SourceAtlas.Source.PythonExpr
import SourceAtlas.Source.PythonGrammar
import SourceAtlas.Source.PythonLines
import SourceAtlas.Source.PythonLiteral
import SourceAtlas.Source.PythonSymbols
import SourceAtlas.Source.PythonSyntax
import SourceAtlas.Source.PythonText
import SourceAtlas.Source.PythonToken
import SourceAtlas.Source.TypeScript
import SourceAtlas.Store
import SourceAtlas.SymbolReading
import SourceAtlas.Symbols
import SourceAtlas.Tags
import SourceAtlas.Text.Base64
import SourceAtlas.Text.Case
import SourceAtlas.Text.CharName
import SourceAtlas.Text.Classes
import SourceAtlas.Text.CodeSet
import SourceAtlas.Text.Compose
import SourceAtlas.Text.Decomposition
import SourceAtlas.Text.Lines
import SourceAtlas.Text.NameTable
import SourceAtlas.Text.Quoted
import SourceAtlas.Text.Utf8
import SourceAtlas.Truncation
import SourceAtlas.Walk
import SourceAtlas.Yaml.Document
import SourceAtlas.Yaml.Graph
import SourceAtlas.Yaml.Place
import SourceAtlas.Yaml.Scalar
import SourceAtlas.Yaml.Token
import SourceAtlas.Yaml.Value
import SourceAtlas.Proofs.ScanThreads
import SourceAtlas.Proofs.ScanThreadsInvariant
import SourceAtlas.Proofs.ScanThreadsProgress
import SourceAtlas.Proofs.TextOrder
import SourceAtlas.Proofs.TextPieces
import SourceAtlas.Proofs.CategoryGroups
import SourceAtlas.Proofs.NotedWork
import SourceAtlas.Proofs.ScanThreadsDelivery
import SourceAtlas.Proofs.ActWork
import SourceAtlas.Proofs.Ceiling
import SourceAtlas.Proofs.CountedText
import SourceAtlas.Proofs.IndexNames
import SourceAtlas.Proofs.SecondRun
import SourceAtlas.Proofs.CounterMode
import SourceAtlas.Proofs.EncodedBytes
import SourceAtlas.Proofs.EncodedText
import SourceAtlas.Proofs.SealedText
import SourceAtlas.Proofs.FileChanges
import SourceAtlas.Proofs.SiteChanges
import SourceAtlas.Proofs.StoreWrites
import SourceAtlas.Proofs.SealedRun
import SourceAtlas.Proofs.LinkWays
import SourceAtlas.Proofs.SettingsRoot
import SourceAtlas.Proofs.ArrivalOrder
import SourceAtlas.Proofs.CoercedSettings
import SourceAtlas.Proofs.IsolatedFaults
import SourceAtlas.Proofs.SameLayout
import SourceAtlas.Proofs.UndigestedText
import SourceAtlas.Proofs.IndexWindows
import SourceAtlas.Proofs.RegistryHistory
import SourceAtlas.Proofs.RequestedAdapters
import SourceAtlas.Proofs.DetectedAdapters
import SourceAtlas.Proofs.CommandEnds
import SourceAtlas.Proofs.SettingsBytes
import SourceAtlas.Proofs.OpenedFiles
import SourceAtlas.Proofs.StrippedCase
import SourceAtlas.Proofs.DecimalText
import SourceAtlas.Proofs.CommandArguments
import SourceAtlas.Proofs.AlikeSettings
import SourceAtlas.Proofs.IndexRequests
import SourceAtlas.Proofs.LayoutLines
import SourceAtlas.Proofs.AttachedSymbols
import SourceAtlas.Proofs.CollectionProtocol
import SourceAtlas.Proofs.FrontEnds
import SourceAtlas.Proofs.AddedFile
import SourceAtlas.Proofs.OverrideGlobs
import SourceAtlas.Proofs.PatternLines
import SourceAtlas.Proofs.GlobbedScan
import SourceAtlas.Proofs.StrictBase64
import SourceAtlas.Proofs.CompiledRules
import SourceAtlas.Proofs.JoinedRules
import SourceAtlas.Proofs.RevealedText
import SourceAtlas.Proofs.RankedEntries
import SourceAtlas.Proofs.ScannedLanguages
import SourceAtlas.Proofs.FoundTree
import SourceAtlas.Proofs.MetEntries
import SourceAtlas.Proofs.ScanAccount
import SourceAtlas.Proofs.DirectoryNames
import SourceAtlas.Proofs.TagLaws
import SourceAtlas.Proofs.StorePolicy
import SourceAtlas.Proofs.RepositorySlugs
import SourceAtlas.Proofs.JournalSinks
import SourceAtlas.Proofs.ModuleImports

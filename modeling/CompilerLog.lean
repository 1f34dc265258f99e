import CompilerLog.Application
import CompilerLog.Arguments
import CompilerLog.BuiltIn.CommandProbe
import CompilerLog.BuiltIn.Info
import CompilerLog.BuiltIn.ProbeOutput
import CompilerLog.BuiltIn.Source
import CompilerLog.Dispatcher
import CompilerLog.Engine
import CompilerLog.Files.Failure
import CompilerLog.Files.Path
import CompilerLog.Files.Tree
import CompilerLog.Gcc.Argument
import CompilerLog.Gcc.CommandLine
import CompilerLog.Gcc.DirectoryOption
import CompilerLog.Gcc.DirectoryOption.Codec
import CompilerLog.Gcc.ResponseFile
import CompilerLog.Invocation
import CompilerLog.Invocation.Codec
import CompilerLog.Json.Parser
import CompilerLog.Json.Printer
import CompilerLog.Json.Record
import CompilerLog.Json.Token
import CompilerLog.Json.Value
import CompilerLog.Log
import CompilerLog.Main
import CompilerLog.Properties.Configuration
import CompilerLog.Properties.Content
import CompilerLog.Properties.Document
import CompilerLog.Scan
import CompilerLog.Settings
import CompilerLog.Settings.Codec
import CompilerLog.Settings.File
import CompilerLog.Settings.Validation
import CompilerLog.Shell.Words
import CompilerLog.Text.Blank
import CompilerLog.Text.Cut
import CompilerLog.Text.Quoted
import CompilerLog.Text.Utf8
import CompilerLog.Trigger
import CompilerLog.Unicode.Category
import CompilerLog.Unicode.Folding
import CompilerLog.Unicode.Property
import CompilerLog.Unicode.Script
import CompilerLog.Unicode.Table
import CompilerLog.Proofs.Gcc.Part
import CompilerLog.Proofs.Gcc.Argument
import CompilerLog.Proofs.Gcc.Expansion
import CompilerLog.Proofs.Gcc.Inlining
import CompilerLog.Proofs.Gcc.Mention
import CompilerLog.Proofs.Gcc.Walk
import CompilerLog.Proofs.Gcc.FirstRefusal
import CompilerLog.Proofs.Gcc.IncludeGraph
import CompilerLog.Proofs.Gcc.Declared
import CompilerLog.Proofs.Gcc.History
import CompilerLog.Proofs.Dispatcher
import CompilerLog.Proofs.Dispatcher.Winner
import CompilerLog.Proofs.BuiltIn.Source
import CompilerLog.Proofs.Engine.Directories
import CompilerLog.Proofs.Engine.Questions
import CompilerLog.Proofs.Text.Utf8
import CompilerLog.Proofs.Json.Spelling
import CompilerLog.Proofs.Json.Token
import CompilerLog.Proofs.Json.Parser
import CompilerLog.Proofs.Json.Record
import CompilerLog.Proofs.Json.Order
import CompilerLog.Proofs.Properties.Content
import CompilerLog.Proofs.Files.Tree
import CompilerLog.Proofs.Files.Alike
import CompilerLog.Proofs.Properties.Merge
import CompilerLog.Proofs.Properties.Document
import CompilerLog.Proofs.Properties.History
import CompilerLog.Proofs.Properties.ChangeFlag
import CompilerLog.Proofs.Properties.Target
import CompilerLog.Proofs.Text.Cut
import CompilerLog.Proofs.Text.Lossy
import CompilerLog.Proofs.Scan
import CompilerLog.Proofs.Settings.Violations
import CompilerLog.Proofs.Settings.Report
import CompilerLog.Proofs.Settings.Patterns
import CompilerLog.Proofs.Gcc.DirectoryOption
import CompilerLog.Proofs.Settings.Codec
import CompilerLog.Proofs.Application
import CompilerLog.Proofs.Application.Setup
import CompilerLog.Proofs.Shell.Quoting
import CompilerLog.Proofs.Gcc.Quoting
import CompilerLog.Proofs.Shell.Unclosed
import CompilerLog.Proofs.Shell.Lines
import CompilerLog.Proofs.Shell.Origin
import CompilerLog.Proofs.Gcc.Grammar
import CompilerLog.Proofs.Gcc.Account
import CompilerLog.Proofs.Gcc.Composition
import CompilerLog.Proofs.Gcc.Buckets
import CompilerLog.Proofs.Text.Printed
import CompilerLog.Proofs.Gcc.Standard
import CompilerLog.Proofs.Engine.Enrichment
import CompilerLog.Proofs.Properties.Pairing
import CompilerLog.Proofs.Properties.Associativity
import CompilerLog.Proofs.Properties.FirstMerge
import CompilerLog.Proofs.BuiltIn.ProbeOutput

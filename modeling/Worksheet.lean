import Worksheet.Artifacts
import Worksheet.Cli.Arguments
import Worksheet.Cli.Commands
import Worksheet.Cli.Overrides
import Worksheet.Compile.Backend
import Worksheet.Compile.Bytecode
import Worksheet.Compile.Capture
import Worksheet.Compile.Javac
import Worksheet.Compile.JavacOutput
import Worksheet.Compile.Settings
import Worksheet.Config.Basic
import Worksheet.Config.Validation
import Worksheet.Disk.Access
import Worksheet.Disk.Errno
import Worksheet.Disk.Node
import Worksheet.Disk.Tree
import Worksheet.Evaluate.Compilations
import Worksheet.Evaluate.Evaluator
import Worksheet.Evaluate.Interleaving
import Worksheet.Evaluate.Locks
import Worksheet.Evaluate.Script
import Worksheet.Evaluate.Stepwise
import Worksheet.Fault
import Worksheet.Host.Machine
import Worksheet.Host.Program
import Worksheet.Host.Runner
import Worksheet.Host.Setup
import Worksheet.Host.Shell.Arithmetic
import Worksheet.Host.Shell.Expansion
import Worksheet.Host.Shell.Fields
import Worksheet.Host.Shell.Lookup
import Worksheet.Host.Shell.Parser
import Worksheet.Host.Shell.Places
import Worksheet.Host.Shell.Redirections
import Worksheet.Host.Shell.Run
import Worksheet.Host.Shell.Signals
import Worksheet.Host.Shell.Start
import Worksheet.Host.Shell.State
import Worksheet.Host.Shell.Syntax
import Worksheet.Host.Shell.Variables
import Worksheet.Host.Spawn
import Worksheet.Host.Tools.Basic
import Worksheet.Host.Tools.Calendar
import Worksheet.Host.Tools.Catalogue
import Worksheet.Host.Tools.Commands
import Worksheet.Host.Tools.Condition
import Worksheet.Host.Tools.Copying
import Worksheet.Host.Tools.Counting
import Worksheet.Host.Tools.Cutting
import Worksheet.Host.Tools.Dating
import Worksheet.Host.Tools.Description
import Worksheet.Host.Tools.Edit.Command
import Worksheet.Host.Tools.Edit.Reader
import Worksheet.Host.Tools.Edit.Run
import Worksheet.Host.Tools.Exchange
import Worksheet.Host.Tools.Files
import Worksheet.Host.Tools.Finding
import Worksheet.Host.Tools.Finding.Format
import Worksheet.Host.Tools.Glob
import Worksheet.Host.Tools.Input
import Worksheet.Host.Tools.Installing
import Worksheet.Host.Tools.Linking
import Worksheet.Host.Tools.Listing
import Worksheet.Host.Tools.Making
import Worksheet.Host.Tools.Modes
import Worksheet.Host.Tools.Options
import Worksheet.Host.Tools.Permissions
import Worksheet.Host.Tools.Printing
import Worksheet.Host.Tools.Quoting
import Worksheet.Host.Tools.Regex
import Worksheet.Host.Tools.Removing
import Worksheet.Host.Tools.Searching
import Worksheet.Host.Tools.Sorting
import Worksheet.Host.Tools.Speaking
import Worksheet.Host.Tools.Streams
import Worksheet.Host.Tools.Truth
import Worksheet.Host.Turn
import Worksheet.Host.Watch
import Worksheet.Json.Reader
import Worksheet.Json.Value
import Worksheet.Json.Writer
import Worksheet.Launch.Program
import Worksheet.Main
import Worksheet.Materialize
import Worksheet.Number.Double
import Worksheet.Number.Floating
import Worksheet.Number.Layout
import Worksheet.Number.Numeral
import Worksheet.Options.Grammar
import Worksheet.Options.Parse
import Worksheet.Options.Usage
import Worksheet.Outcome
import Worksheet.OutcomeTemplates
import Worksheet.Path
import Worksheet.Proofs.ArtifactKeys
import Worksheet.Proofs.BytecodeHeaders
import Worksheet.Proofs.CommandLine
import Worksheet.Proofs.CompilerRuns
import Worksheet.Proofs.Conduct
import Worksheet.Proofs.ConfigTexts
import Worksheet.Proofs.ConfiguredOptions
import Worksheet.Proofs.CopiedSources
import Worksheet.Proofs.EchoedLines
import Worksheet.Proofs.EscapedFaults
import Worksheet.Proofs.EvaluationFootprint
import Worksheet.Proofs.ExitStatuses
import Worksheet.Proofs.ExportFootprint
import Worksheet.Proofs.ExportPlaces
import Worksheet.Proofs.ExportedNames
import Worksheet.Proofs.ExportedTrees
import Worksheet.Proofs.Faces
import Worksheet.Proofs.FileEdits
import Worksheet.Proofs.FileTimes
import Worksheet.Proofs.Footprints
import Worksheet.Proofs.GivenOptions
import Worksheet.Proofs.Isolation
import Worksheet.Proofs.JavacBlocks
import Worksheet.Proofs.JavacLines
import Worksheet.Proofs.JavacRuns
import Worksheet.Proofs.JsonTexts
import Worksheet.Proofs.KeptTrees
import Worksheet.Proofs.LaunchedFiles
import Worksheet.Proofs.LinkedWalks
import Worksheet.Proofs.LoadedTrees
import Worksheet.Proofs.LockTable
import Worksheet.Proofs.MixedCharacters
import Worksheet.Proofs.NameTexts
import Worksheet.Proofs.NumberTexts
import Worksheet.Proofs.OptionGroups
import Worksheet.Proofs.OutcomeTexts
import Worksheet.Proofs.Outcomes
import Worksheet.Proofs.OutputLoss
import Worksheet.Proofs.OutputOrder
import Worksheet.Proofs.OutputPlaces
import Worksheet.Proofs.OwnModule
import Worksheet.Proofs.PolledWaits
import Worksheet.Proofs.ReachableOutput
import Worksheet.Proofs.RealPaths
import Worksheet.Proofs.RenderedFailures
import Worksheet.Proofs.RewrittenFiles
import Worksheet.Proofs.RootedPaths
import Worksheet.Proofs.RoundTrips
import Worksheet.Proofs.RunCleanup
import Worksheet.Proofs.ScratchFiles
import Worksheet.Proofs.SearchOrder
import Worksheet.Proofs.SourceFiles
import Worksheet.Proofs.SourcePlaces
import Worksheet.Proofs.TemplateTexts
import Worksheet.Proofs.TwoCommands
import Worksheet.Proofs.Walks
import Worksheet.Proofs.WarningCapture
import Worksheet.Proofs.WholeTexts
import Worksheet.Proofs.WrittenFiles
import Worksheet.Report
import Worksheet.Request
import Worksheet.Run.Readers
import Worksheet.Run.Session
import Worksheet.Run.Wait
import Worksheet.Template
import Worksheet.Text.CharacterName
import Worksheet.Text.CharacterName.BasicPlane
import Worksheet.Text.CharacterName.Supplementary
import Worksheet.Text.CodePoint
import Worksheet.Text.Digit
import Worksheet.Text.Encoding
import Worksheet.Text.Encoding.Big5
import Worksheet.Text.Encoding.Chinese
import Worksheet.Text.Encoding.EastAsian
import Worksheet.Text.Encoding.Escapes
import Worksheet.Text.Encoding.Gb
import Worksheet.Text.Encoding.Japanese
import Worksheet.Text.Encoding.Korean
import Worksheet.Text.Encoding.Names
import Worksheet.Text.Encoding.Punycode
import Worksheet.Text.Encoding.SingleByte
import Worksheet.Text.Encoding.Stepwise
import Worksheet.Text.Encoding.Units
import Worksheet.Text.Encoding.Utf7
import Worksheet.Text.Identifier
import Worksheet.Text.Octets
import Worksheet.Text.Printable
import Worksheet.Text.Quoted
import Worksheet.Text.Split
import Worksheet.Text.Utf8

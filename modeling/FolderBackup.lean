import FolderBackup.Calendar
import FolderBackup.CommandLine
import FolderBackup.Context
import FolderBackup.Decimal.Binary64
import FolderBackup.Decimal.Shortest
import FolderBackup.Event
import FolderBackup.Executor
import FolderBackup.Extension
import FolderBackup.Failure
import FolderBackup.FileName
import FolderBackup.FileTree
import FolderBackup.Job
import FolderBackup.Main
import FolderBackup.Operation
import FolderBackup.Operation.Backward
import FolderBackup.Operation.Compression
import FolderBackup.Operation.Forward
import FolderBackup.Operation.KeyUse
import FolderBackup.Operation.Loading
import FolderBackup.Operation.Plan
import FolderBackup.Operation.SaveTo
import FolderBackup.Operation.Upload
import FolderBackup.Operation.Verification
import FolderBackup.Preflight
import FolderBackup.Proofs.Alphabets
import FolderBackup.Proofs.AnyEntryOrder
import FolderBackup.Proofs.AnyOrder
import FolderBackup.Proofs.Budget
import FolderBackup.Proofs.Buildable
import FolderBackup.Proofs.Calls
import FolderBackup.Proofs.Confinement
import FolderBackup.Proofs.Dataflow
import FolderBackup.Proofs.Documents
import FolderBackup.Proofs.FileNames
import FolderBackup.Proofs.FixedWorld
import FolderBackup.Proofs.Fragments
import FolderBackup.Proofs.Gate
import FolderBackup.Proofs.Journal
import FolderBackup.Proofs.Loadable
import FolderBackup.Proofs.Loaded
import FolderBackup.Proofs.Modes
import FolderBackup.Proofs.Outcome
import FolderBackup.Proofs.Quoting
import FolderBackup.Proofs.Records
import FolderBackup.Proofs.Reordering
import FolderBackup.Proofs.Resolved
import FolderBackup.Proofs.Roots
import FolderBackup.Proofs.RoundTrip
import FolderBackup.Proofs.Rules
import FolderBackup.Proofs.SerialRun
import FolderBackup.Proofs.Spelling
import FolderBackup.Proofs.Splicing
import FolderBackup.Proofs.StillWorld
import FolderBackup.Proofs.Templates
import FolderBackup.Proofs.TimeAndThreads
import FolderBackup.Proofs.Traversal
import FolderBackup.Proofs.Turns
import FolderBackup.Proofs.VerifiedOnce
import FolderBackup.Proofs.VerifyFirst
import FolderBackup.Proofs.Words
import FolderBackup.Reading.Mismatch
import FolderBackup.Reading.OfValue
import FolderBackup.Reading.Record
import FolderBackup.Reading.Source
import FolderBackup.Registry
import FolderBackup.Report
import FolderBackup.Runner
import FolderBackup.Scene
import FolderBackup.Settings
import FolderBackup.Settings.Connection
import FolderBackup.Settings.Execution
import FolderBackup.Settings.FolderEntry
import FolderBackup.Settings.Loading
import FolderBackup.Settings.Options
import FolderBackup.Settings.Roster
import FolderBackup.Settings.Violation
import FolderBackup.Shell.Arithmetic
import FolderBackup.Shell.Assigning
import FolderBackup.Shell.Attributes
import FolderBackup.Shell.Braces
import FolderBackup.Shell.Builtin
import FolderBackup.Shell.Classes
import FolderBackup.Shell.Clock
import FolderBackup.Shell.Command
import FolderBackup.Shell.Declaring
import FolderBackup.Shell.Enclosed
import FolderBackup.Shell.Expansion
import FolderBackup.Shell.Extended
import FolderBackup.Shell.Fields
import FolderBackup.Shell.Flow
import FolderBackup.Shell.Input
import FolderBackup.Shell.Leaving
import FolderBackup.Shell.Listing
import FolderBackup.Shell.Lookup
import FolderBackup.Shell.Mask
import FolderBackup.Shell.Octets
import FolderBackup.Shell.Parameter
import FolderBackup.Shell.Pattern
import FolderBackup.Shell.Places
import FolderBackup.Shell.Printing
import FolderBackup.Shell.Programs
import FolderBackup.Shell.Prompt
import FolderBackup.Shell.Question
import FolderBackup.Shell.Quoting
import FolderBackup.Shell.Reader
import FolderBackup.Shell.Redirecting
import FolderBackup.Shell.Reference
import FolderBackup.Shell.Regex
import FolderBackup.Shell.Run
import FolderBackup.Shell.Saying
import FolderBackup.Shell.Script
import FolderBackup.Shell.Session
import FolderBackup.Shell.Signals
import FolderBackup.Shell.Simple
import FolderBackup.Shell.Slot
import FolderBackup.Shell.Start
import FolderBackup.Shell.Switches
import FolderBackup.Shell.Texts
import FolderBackup.Shell.Token
import FolderBackup.Shell.Tool
import FolderBackup.Shell.Tracing
import FolderBackup.Shell.Usage
import FolderBackup.Shell.Variables
import FolderBackup.Shell.Waiting
import FolderBackup.Shell.Written
import FolderBackup.Surroundings
import FolderBackup.Template
import FolderBackup.Text.Blank
import FolderBackup.Text.Extender
import FolderBackup.Text.Lines
import FolderBackup.Text.Lossy
import FolderBackup.Text.Quoted
import FolderBackup.Text.Unprintable
import FolderBackup.Timestamp
import FolderBackup.World
import FolderBackup.Yaml.Document
import FolderBackup.Yaml.Fault
import FolderBackup.Yaml.Node
import FolderBackup.Yaml.Number
import FolderBackup.Yaml.Place
import FolderBackup.Yaml.Reference
import FolderBackup.Yaml.Token
import FolderBackup.Yaml.Token.Scalar
import FolderBackup.Yaml.Token.Stream
import FolderBackup.Yaml.Token.Tag
import FolderBackup.Yaml.Value
import FolderBackup.Proofs.Placeholders
import FolderBackup.Proofs.Reversal
import FolderBackup.Proofs.Octets
import FolderBackup.Proofs.Globs
import FolderBackup.Proofs.ShellWords
import FolderBackup.Proofs.Paths
import FolderBackup.Proofs.GlobSearch
import FolderBackup.Proofs.ArchiveVerdict
import FolderBackup.Proofs.ArchiveWords
import FolderBackup.Proofs.WordReading
import FolderBackup.Proofs.FirstFault
import FolderBackup.Proofs.Numerals
import FolderBackup.Proofs.Untagged
import FolderBackup.Proofs.Acceptance
import FolderBackup.Proofs.MissingPaths
import FolderBackup.Proofs.KeyVerdict
import FolderBackup.Proofs.FirstUnverified
import FolderBackup.Proofs.Violations
import FolderBackup.Proofs.Gathering
import FolderBackup.Proofs.ReportResult
import FolderBackup.Proofs.MessageLines
import FolderBackup.Proofs.SuffixReading
import FolderBackup.Proofs.Chronology
import FolderBackup.Proofs.Rebinding

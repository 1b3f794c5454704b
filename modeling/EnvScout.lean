import EnvScout.Command
import EnvScout.Conda
import EnvScout.Config.Basic
import EnvScout.Config.InPlace
import EnvScout.Config.Schema
import EnvScout.Decimal.Shortest
import EnvScout.Domain.Address
import EnvScout.Domain.ClassTable
import EnvScout.Domain.Label
import EnvScout.Domain.Mapping
import EnvScout.Domain.MappingTable
import EnvScout.Domain.Name
import EnvScout.Domain.Punycode
import EnvScout.Embedded
import EnvScout.FileUri
import EnvScout.Files.Edit
import EnvScout.Files.Lookup
import EnvScout.Files.Tree
import EnvScout.Finder.Basic
import EnvScout.Finder.Find
import EnvScout.Finder.Tool
import EnvScout.Host
import EnvScout.Json.Decode
import EnvScout.Json.Number
import EnvScout.Json.Place
import EnvScout.Json.Reader
import EnvScout.Json.Token
import EnvScout.Json.Value
import EnvScout.Location
import EnvScout.Log.Directive
import EnvScout.Log.Event
import EnvScout.Log.Filter
import EnvScout.Log.Line
import EnvScout.Log.Place
import EnvScout.Log.RepeatFilter
import EnvScout.Log.ValuePattern
import EnvScout.Machine.Basic
import EnvScout.Machine.Launch
import EnvScout.Main
import EnvScout.Path.Basic
import EnvScout.Process
import EnvScout.Proofs.Command
import EnvScout.Proofs.Config.Accepted
import EnvScout.Proofs.Config.Applying
import EnvScout.Proofs.Config.Reading
import EnvScout.Proofs.Config.Written
import EnvScout.Proofs.Embedded
import EnvScout.Proofs.Embedded.Banner
import EnvScout.Proofs.Files.Contents
import EnvScout.Proofs.Files.Created
import EnvScout.Proofs.Files.Landing
import EnvScout.Proofs.Files.Made
import EnvScout.Proofs.Files.Stepping
import EnvScout.Proofs.Finder.Answers
import EnvScout.Proofs.Finder.Asking
import EnvScout.Proofs.Finder.Finding
import EnvScout.Proofs.Finder.Scan
import EnvScout.Proofs.Finder.Subdirectories
import EnvScout.Proofs.Finder.VenvLine
import EnvScout.Proofs.Json.Decoding
import EnvScout.Proofs.Json.Records
import EnvScout.Proofs.Json.Written
import EnvScout.Proofs.Location.Settled
import EnvScout.Proofs.Log.History
import EnvScout.Proofs.Log.Message
import EnvScout.Proofs.Log.Place
import EnvScout.Proofs.Log.Repeats
import EnvScout.Proofs.Log.Tracked
import EnvScout.Proofs.Lookup
import EnvScout.Proofs.Path.Components
import EnvScout.Proofs.Path.Front
import EnvScout.Proofs.Path.Names
import EnvScout.Proofs.Path.Steps
import EnvScout.Proofs.Process
import EnvScout.Proofs.Pyvenv.Layout
import EnvScout.Proofs.Pyvenv.Reading
import EnvScout.Proofs.Pyvenv.Regular
import EnvScout.Proofs.Pyvenv.RoundTrip
import EnvScout.Proofs.Pyvenv.Sections
import EnvScout.Proofs.Resolution.Cleaning
import EnvScout.Proofs.Resolution.Commands
import EnvScout.Proofs.Resolution.Explicit
import EnvScout.Proofs.Resolution.FirstHit
import EnvScout.Proofs.Resolution.HandedOut
import EnvScout.Proofs.Resolution.Metadata
import EnvScout.Proofs.Resolution.Order
import EnvScout.Proofs.Resolution.Pinning
import EnvScout.Proofs.Resolution.PlainSight
import EnvScout.Proofs.Resolution.Walk
import EnvScout.Proofs.Search
import EnvScout.Proofs.Settings.Apart
import EnvScout.Proofs.Settings.ExtraPaths
import EnvScout.Proofs.Settings.Members
import EnvScout.Proofs.Settings.Pointing
import EnvScout.Proofs.Table
import EnvScout.Proofs.Text.Blank
import EnvScout.Proofs.Text.Case
import EnvScout.Proofs.Text.Pattern
import EnvScout.Proofs.Text.Replace
import EnvScout.Proofs.Text.Split
import EnvScout.Proofs.Venv.Accuracy
import EnvScout.Proofs.Venv.CondaVersion
import EnvScout.Proofs.Venv.Describing
import EnvScout.Proofs.Venv.Interpreter
import EnvScout.Proofs.Venv.Place
import EnvScout.Proofs.Workspace
import EnvScout.Proofs.Workspace.Deepest
import EnvScout.Pyvenv
import EnvScout.Resolution
import EnvScout.Search
import EnvScout.Settings.Apply
import EnvScout.Settings.ExtraPaths
import EnvScout.Shell.Expansion
import EnvScout.Shell.Image
import EnvScout.Shell.Inner
import EnvScout.Shell.Printf
import EnvScout.Shell.Program
import EnvScout.Shell.Redirection
import EnvScout.Shell.Run
import EnvScout.Shell.Script
import EnvScout.Shell.Start
import EnvScout.Shell.State
import EnvScout.Shell.Word
import EnvScout.Table
import EnvScout.Text.Blank
import EnvScout.Text.Case
import EnvScout.Text.CaseTable
import EnvScout.Text.Composition
import EnvScout.Text.CompositionTable
import EnvScout.Text.Hex
import EnvScout.Text.LetterTable
import EnvScout.Text.MarkTable
import EnvScout.Text.Marks
import EnvScout.Text.Pattern
import EnvScout.Text.PrintTable
import EnvScout.Text.Quoted
import EnvScout.Text.Ranges
import EnvScout.Text.Replace
import EnvScout.Text.Split
import EnvScout.Text.Utf8
import EnvScout.Venv.Basic
import EnvScout.Venv.SitePackages
import EnvScout.Workspace

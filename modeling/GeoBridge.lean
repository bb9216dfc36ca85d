import GeoBridge.Association
import GeoBridge.Catalog
import GeoBridge.ChildProcess
import GeoBridge.CommandLine
import GeoBridge.CommandLine.Arguments
import GeoBridge.CommandLine.Command
import GeoBridge.CommandLine.Report
import GeoBridge.Configuration
import GeoBridge.Configuration.Document
import GeoBridge.Configuration.Schema
import GeoBridge.Configuration.Writer
import GeoBridge.ContentKind
import GeoBridge.Conversion
import GeoBridge.Crs
import GeoBridge.Crs.Geodesy
import GeoBridge.Crs.Naming
import GeoBridge.Crs.SideFile
import GeoBridge.Crs.WellKnownText
import GeoBridge.Decimal.Binary64
import GeoBridge.Decimal.Places
import GeoBridge.Decimal.Power
import GeoBridge.Decimal.Shortest
import GeoBridge.Decimal.Written
import GeoBridge.Failure
import GeoBridge.Family
import GeoBridge.Fault
import GeoBridge.FileSource
import GeoBridge.Layering
import GeoBridge.Loader
import GeoBridge.Main
import GeoBridge.ModuleFile
import GeoBridge.Output
import GeoBridge.Path
import GeoBridge.Payload
import GeoBridge.Probe
import GeoBridge.Profile
import GeoBridge.Proofs.Frame
import GeoBridge.Proofs.Snapshots
import GeoBridge.Registry
import GeoBridge.Service
import GeoBridge.Session
import GeoBridge.Shell.Builtin.Flow
import GeoBridge.Shell.Builtin.Input
import GeoBridge.Shell.Builtin.Output
import GeoBridge.Shell.Builtin.Signals
import GeoBridge.Shell.Builtin.Variables
import GeoBridge.Shell.Command
import GeoBridge.Shell.Condition
import GeoBridge.Shell.Expansion
import GeoBridge.Shell.Host
import GeoBridge.Shell.Interpreter
import GeoBridge.Shell.Machine
import GeoBridge.Shell.Number
import GeoBridge.Shell.OctetClass
import GeoBridge.Shell.Octets
import GeoBridge.Shell.Opening
import GeoBridge.Shell.PathPattern
import GeoBridge.Shell.Pattern
import GeoBridge.Shell.Printing
import GeoBridge.Shell.Program
import GeoBridge.Shell.Regular
import GeoBridge.Shell.Script
import GeoBridge.Shell.State
import GeoBridge.Shell.Task
import GeoBridge.Shell.Token
import GeoBridge.Shell.Tool.Characters
import GeoBridge.Shell.Tool.Edit
import GeoBridge.Shell.Tool.EditScript
import GeoBridge.Shell.Tool.Filter
import GeoBridge.Shell.Tool.Order
import GeoBridge.Shell.Tool.Parts
import GeoBridge.Shell.Tool.Search
import GeoBridge.Shell.Tool.Values
import GeoBridge.Shell.Toolbox
import GeoBridge.Shell.Word
import GeoBridge.Site
import GeoBridge.Text.Ascending
import GeoBridge.Text.Blank
import GeoBridge.Text.CharacterRange
import GeoBridge.Text.ControlSequence
import GeoBridge.Text.Lines
import GeoBridge.Text.Printable
import GeoBridge.Text.Quoted
import GeoBridge.Text.ShellWord
import GeoBridge.Text.Uppercase
import GeoBridge.Text.Utf8
import GeoBridge.Text.WideText
import GeoBridge.Text.WordCharacter
import GeoBridge.Validation
import GeoBridge.WidePath
import GeoBridge.Workspace
import GeoBridge.Xml.Character
import GeoBridge.Xml.CodePage
import GeoBridge.Xml.Declaration
import GeoBridge.Xml.Document
import GeoBridge.Xml.Element
import GeoBridge.Xml.Encoding
import GeoBridge.Xml.Fault
import GeoBridge.Xml.NameCharacter
import GeoBridge.Xml.Piece
import GeoBridge.Xml.Prolog
import GeoBridge.Xml.Reference
import GeoBridge.Xml.Writer
import GeoBridge.Proofs.Reload
import GeoBridge.Proofs.Probing
import GeoBridge.Proofs.DocumentFaults
import GeoBridge.Proofs.BrokenConfiguration
import GeoBridge.Proofs.Paths
import GeoBridge.Proofs.Places
import GeoBridge.Proofs.SideFiles
import GeoBridge.Proofs.Conversions
import GeoBridge.Proofs.ConversionFiles
import GeoBridge.Proofs.Backing
import GeoBridge.Proofs.Sessions
import GeoBridge.Proofs.ConfigurationRoundTrip
import GeoBridge.Proofs.ConfigurationChanges
import GeoBridge.Proofs.SimultaneousConversions
import GeoBridge.Proofs.SnapshotIsolation
import GeoBridge.Proofs.WatchLifeCycle
import GeoBridge.Proofs.ReadValues
import GeoBridge.Proofs.ConfigurationGrammar
import GeoBridge.Proofs.ConfigurationDialects
import GeoBridge.Proofs.ConversionEndings
import GeoBridge.Proofs.CommandLineConversions
import GeoBridge.Proofs.AllowedCharacters
import GeoBridge.Proofs.DescribedConfigurations
import GeoBridge.Proofs.ReadConfigurations
import GeoBridge.Proofs.EssentialElements
import GeoBridge.Proofs.KeptElements
import GeoBridge.Proofs.ConversionOutcomes
import GeoBridge.Proofs.CommandLayout
import GeoBridge.Proofs.ChangeEvents
import GeoBridge.Proofs.AnnouncedFormats
import GeoBridge.Proofs.WrappedText
import GeoBridge.Proofs.OutputPlaces
import GeoBridge.Proofs.DescribedOutputs
import GeoBridge.Proofs.LoaderRecords
import GeoBridge.Proofs.FamilyRegistrations
import GeoBridge.Proofs.FamilyModules
import GeoBridge.Proofs.NamedModules
import GeoBridge.Proofs.FamilyHistories
import GeoBridge.Proofs.RunningObservers
import GeoBridge.Proofs.LayerChecks
import GeoBridge.Proofs.NamedFormats
import GeoBridge.Proofs.ChildProcesses

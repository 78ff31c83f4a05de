import Scaffold.Artifact
import Scaffold.Calendar
import Scaffold.Checkpoint
import Scaffold.Command.Error
import Scaffold.Command.Grammar
import Scaffold.Command.Invocation
import Scaffold.Command.Layer
import Scaffold.Command.Printer
import Scaffold.Command.Run
import Scaffold.Command.Scan
import Scaffold.Command.Settings
import Scaffold.Command.Usage
import Scaffold.Decimal
import Scaffold.Descriptor
import Scaffold.Descriptor.Record
import Scaffold.Descriptor.Timestamp
import Scaffold.Descriptor.Uuid
import Scaffold.Entrypoint
import Scaffold.Error
import Scaffold.Feature
import Scaffold.Format.EnvFile
import Scaffold.Format.Json
import Scaffold.Format.JsonRecord
import Scaffold.Format.Toml.Basic
import Scaffold.Format.Toml.Reader
import Scaffold.Format.Toml.Scalar
import Scaffold.Format.Yaml.Basic
import Scaffold.Format.Yaml.Cursor
import Scaffold.Format.Yaml.Reader
import Scaffold.Format.Yaml.ScalarText
import Scaffold.Format.Yaml.Token
import Scaffold.Format.Yaml.Writer
import Scaffold.Format.YamlRecord
import Scaffold.Gate
import Scaffold.Identifier
import Scaffold.LineEdit
import Scaffold.Locator
import Scaffold.Main
import Scaffold.Manifest
import Scaffold.MemoryTree
import Scaffold.Path
import Scaffold.Plan.Basic
import Scaffold.Plan.Entity
import Scaffold.Plan.Scalar
import Scaffold.Plan.Service
import Scaffold.Plural
import Scaffold.Ports
import Scaffold.Proofs.Perform
import Scaffold.Proofs.Plan.Tasks
import Scaffold.Reconcile
import Scaffold.Report
import Scaffold.Repository
import Scaffold.Request
import Scaffold.Simulation
import Scaffold.System.Basic
import Scaffold.System.BuildTool
import Scaffold.System.Disk
import Scaffold.System.Files
import Scaffold.System.LocalFiles
import Scaffold.System.Machine
import Scaffold.System.Shell
import Scaffold.System.Shell.Arithmetic
import Scaffold.System.Shell.Builtins
import Scaffold.System.Shell.Fields
import Scaffold.System.Shell.Format
import Scaffold.System.Shell.Pattern
import Scaffold.System.Shell.Reader
import Scaffold.System.Shell.Regex
import Scaffold.System.Shell.Run
import Scaffold.System.Shell.Script
import Scaffold.System.Shell.Session
import Scaffold.System.Shell.Test
import Scaffold.System.Shell.Tool
import Scaffold.System.Shell.Toolbox
import Scaffold.System.Shell.Tools.Files
import Scaffold.System.Shell.Tools.Lines
import Scaffold.System.Shell.Tools.Search
import Scaffold.System.Shell.Tools.Values
import Scaffold.System.Stores
import Scaffold.Task
import Scaffold.Template.Builtin
import Scaffold.Template.Catalog
import Scaffold.Template.Context
import Scaffold.Template.Overrides
import Scaffold.Text.Blank
import Scaffold.Text.Case
import Scaffold.Text.CaseTables
import Scaffold.Text.Digits
import Scaffold.Text.HiddenTable
import Scaffold.Text.NameTable
import Scaffold.Text.Octets
import Scaffold.Text.Search
import Scaffold.Text.Style
import Scaffold.Text.Utf8
import Scaffold.Text.Visible
import Scaffold.Text.WordTable
import Scaffold.Text.Words
import Scaffold.UseCase
import Scaffold.Vocabulary
import Scaffold.Proofs.Action
import Scaffold.Proofs.Crud
import Scaffold.Proofs.Repeat
import Scaffold.Proofs.Retry
import Scaffold.Proofs.Effect
import Scaffold.Proofs.History
import Scaffold.Proofs.Lossless
import Scaffold.Proofs.Plan.Entry
import Scaffold.Proofs.Preservation
import Scaffold.Proofs.Inventory
import Scaffold.Proofs.Provider
import Scaffold.Proofs.Confinement
import Scaffold.Proofs.Noninterference
import Scaffold.Proofs.Version
import Scaffold.Proofs.StepLog
import Scaffold.Proofs.Spelling
import Scaffold.Proofs.Manifest.Bounds
import Scaffold.Proofs.Manifest.Upsert
import Scaffold.Proofs.Manifest.Markup
import Scaffold.Proofs.Commute
import Scaffold.Proofs.Artifact.Reload
import Scaffold.Proofs.Manifest.Terminator
import Scaffold.Proofs.Manifest.Literal
import Scaffold.Proofs.Artifact.Queue
import Scaffold.Proofs.Presence
import Scaffold.Proofs.Establish
import Scaffold.Proofs.Member.Crosstalk
import Scaffold.Proofs.EnumType
import Scaffold.Proofs.ExternalSystem
import Scaffold.Proofs.Cleaning
import Scaffold.Proofs.Template.Order
import Scaffold.Proofs.Identifier
import Scaffold.Proofs.Artifact.Columns
import Scaffold.Proofs.Migration
import Scaffold.Proofs.Tree.Invariant

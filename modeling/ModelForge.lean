import ModelForge.Command.Arguments
import ModelForge.Command.Command
import ModelForge.Command.Compile
import ModelForge.Command.List
import ModelForge.Command.Outcome
import ModelForge.Command.Run
import ModelForge.Compile.Error
import ModelForge.Compile.Pipeline
import ModelForge.Compile.SchemaFile
import ModelForge.Compile.Toolchain
import ModelForge.Decimal.Printer
import ModelForge.Decimal.Remainder
import ModelForge.Decimal.Shortest
import ModelForge.Disk.Basic
import ModelForge.Disk.Fault
import ModelForge.Disk.Operation
import ModelForge.Disk.Tree
import ModelForge.Disk.Walk
import ModelForge.Document.Mismatch
import ModelForge.Json.Problem
import ModelForge.Json.Quoted
import ModelForge.Json.Reader
import ModelForge.Json.Record
import ModelForge.Json.Scalar
import ModelForge.Machine
import ModelForge.Main
import ModelForge.Model.Basic
import ModelForge.Model.Layout
import ModelForge.Path.Basic
import ModelForge.Path.Lexical
import ModelForge.Plugin.Basic
import ModelForge.Plugin.Device
import ModelForge.Plugin.Header
import ModelForge.Process.Launch
import ModelForge.Process.Outcome
import ModelForge.Process.Printf
import ModelForge.Process.Shell
import ModelForge.Process.Word
import ModelForge.Proofs.Action
import ModelForge.Proofs.Command.Arguments
import ModelForge.Proofs.Command.Compile
import ModelForge.Proofs.Command.List
import ModelForge.Proofs.Command.ModuleArgument
import ModelForge.Proofs.Compile.Absolute
import ModelForge.Proofs.Compile.Atomic
import ModelForge.Proofs.Compile.Beside
import ModelForge.Proofs.Compile.Blind
import ModelForge.Proofs.Compile.Commute
import ModelForge.Proofs.Compile.Containment
import ModelForge.Proofs.Compile.Copy
import ModelForge.Proofs.Compile.Effect
import ModelForge.Proofs.Compile.Failure
import ModelForge.Proofs.Compile.Filled
import ModelForge.Proofs.Compile.Frozen
import ModelForge.Proofs.Compile.Handover
import ModelForge.Proofs.Compile.History
import ModelForge.Proofs.Compile.Isolation
import ModelForge.Proofs.Compile.Kept
import ModelForge.Proofs.Compile.Layout
import ModelForge.Proofs.Compile.Local
import ModelForge.Proofs.Compile.Lockstep
import ModelForge.Proofs.Compile.Origin
import ModelForge.Proofs.Compile.Pipeline
import ModelForge.Proofs.Compile.Present
import ModelForge.Proofs.Compile.Recompile
import ModelForge.Proofs.Compile.Repeat
import ModelForge.Proofs.Compile.Run
import ModelForge.Proofs.Compile.SchemaFile
import ModelForge.Proofs.Compile.Stage
import ModelForge.Proofs.Compile.Turn
import ModelForge.Proofs.Compile.WayBack
import ModelForge.Proofs.Disk.Absolute
import ModelForge.Proofs.Disk.Agreement
import ModelForge.Proofs.Disk.Beside
import ModelForge.Proofs.Disk.Directory
import ModelForge.Proofs.Disk.Ensure
import ModelForge.Proofs.Disk.Entry
import ModelForge.Proofs.Disk.Lexical
import ModelForge.Proofs.Disk.Naming
import ModelForge.Proofs.Disk.Overwrite
import ModelForge.Proofs.Disk.Reach
import ModelForge.Proofs.Disk.Shape
import ModelForge.Proofs.Disk.Site
import ModelForge.Proofs.Disk.Straight
import ModelForge.Proofs.Disk.Walk
import ModelForge.Proofs.Json.Number
import ModelForge.Proofs.Json.Object
import ModelForge.Proofs.Json.Passing
import ModelForge.Proofs.Json.Quoted
import ModelForge.Proofs.Json.Reader
import ModelForge.Proofs.Json.Spelling
import ModelForge.Proofs.Model.Names
import ModelForge.Proofs.Model.Validate
import ModelForge.Proofs.Path.Ancestors
import ModelForge.Proofs.Path.Between
import ModelForge.Proofs.Path.Composition
import ModelForge.Proofs.Path.Descent
import ModelForge.Proofs.Path.Join
import ModelForge.Proofs.Path.Normal
import ModelForge.Proofs.Path.Order
import ModelForge.Proofs.Plugin.Header
import ModelForge.Proofs.Plugin.RoundTrip
import ModelForge.Proofs.Plugin.Verdict
import ModelForge.Proofs.Repository.Compiled
import ModelForge.Proofs.Repository.Discovery
import ModelForge.Proofs.Repository.Distinct
import ModelForge.Proofs.Repository.Exact
import ModelForge.Proofs.Repository.Lookup
import ModelForge.Proofs.Repository.Native
import ModelForge.Proofs.Repository.Traversal
import ModelForge.Proofs.Settings.Documents
import ModelForge.Proofs.Settings.Json
import ModelForge.Proofs.Settings.Overlay
import ModelForge.Proofs.Settings.Yaml
import ModelForge.Proofs.Source.Defaults
import ModelForge.Proofs.Source.EntryPoint
import ModelForge.Proofs.Source.Generated
import ModelForge.Proofs.Source.Literal
import ModelForge.Proofs.Source.ModuleList
import ModelForge.Proofs.Source.Render
import ModelForge.Proofs.Source.RenderFile
import ModelForge.Proofs.Source.Verbatim
import ModelForge.Proofs.Template.Definition
import ModelForge.Proofs.Template.Part
import ModelForge.Proofs.Template.Phrase
import ModelForge.Proofs.Template.Running
import ModelForge.Proofs.Template.Stretch
import ModelForge.Proofs.Template.Verbatim
import ModelForge.Proofs.Text.Reader
import ModelForge.Proofs.Yaml.Document
import ModelForge.Proofs.Yaml.Gap
import ModelForge.Proofs.Yaml.Line
import ModelForge.Proofs.Yaml.Literal
import ModelForge.Proofs.Yaml.Plain
import ModelForge.Proofs.Yaml.Quoted
import ModelForge.Proofs.Yaml.Scan
import ModelForge.Proofs.Yaml.Step
import ModelForge.Proofs.Yaml.Written
import ModelForge.Repository.Config
import ModelForge.Repository.Discovery
import ModelForge.Repository.Error
import ModelForge.Repository.Loader
import ModelForge.Repository.Lookup
import ModelForge.Settings.Basic
import ModelForge.Settings.Json
import ModelForge.Settings.Yaml
import ModelForge.Source.Context
import ModelForge.Source.Defaults
import ModelForge.Source.Kind
import ModelForge.Source.Render
import ModelForge.Template.Definition
import ModelForge.Template.Evaluation
import ModelForge.Template.Filter
import ModelForge.Template.Outline
import ModelForge.Template.Phrase
import ModelForge.Template.Problem
import ModelForge.Template.Rendering
import ModelForge.Template.Scope
import ModelForge.Template.Tree
import ModelForge.Template.Trim
import ModelForge.Template.Value
import ModelForge.Text.Blank
import ModelForge.Text.Case
import ModelForge.Text.Case.Table
import ModelForge.Text.Cluster
import ModelForge.Text.Cluster.Table
import ModelForge.Text.Fields
import ModelForge.Text.Reader
import ModelForge.Text.Search
import ModelForge.Text.Terminal
import ModelForge.Text.Visible
import ModelForge.Text.Visible.Table
import ModelForge.Yaml.Node
import ModelForge.Yaml.Plain
import ModelForge.Yaml.Record
import ModelForge.Yaml.Scan
import ModelForge.Yaml.Token
import ModelForge.Yaml.Written

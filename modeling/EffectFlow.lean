import EffectFlow.CommandLine.Arguments
import EffectFlow.CommandLine.Directory
import EffectFlow.CommandLine.Run
import EffectFlow.Compile.Compilation
import EffectFlow.Compile.Compiler
import EffectFlow.Compile.Outline
import EffectFlow.Config
import EffectFlow.Dict
import EffectFlow.Fields.Listing
import EffectFlow.Fields.Names
import EffectFlow.Fields.Rule
import EffectFlow.Gate
import EffectFlow.Json.Fault
import EffectFlow.Json.Number
import EffectFlow.Json.Parser
import EffectFlow.Json.Printer
import EffectFlow.Json.Record
import EffectFlow.Json.Tree
import EffectFlow.Json.Value
import EffectFlow.Main
import EffectFlow.Numeric.Binary64
import EffectFlow.Numeric.Numeral
import EffectFlow.Numeric.Shortest
import EffectFlow.Pipeline.Document
import EffectFlow.Pipeline.Entry
import EffectFlow.Pipeline.Error
import EffectFlow.Pipeline.Lift
import EffectFlow.Pipeline.Node
import EffectFlow.Program.Basic
import EffectFlow.Program.Chain
import EffectFlow.Program.Json
import EffectFlow.Program.Links
import EffectFlow.Proofs.Compile.Carried
import EffectFlow.Proofs.Compile.Nesting
import EffectFlow.Proofs.Compile.Nodes
import EffectFlow.Proofs.Compile.Orders
import EffectFlow.Proofs.Compile.Renaming
import EffectFlow.Proofs.Compile.Tables
import EffectFlow.Proofs.Compile.Visits
import EffectFlow.Proofs.Compile.Waiting
import EffectFlow.Proofs.Fields.References
import EffectFlow.Proofs.Fields.Rules
import EffectFlow.Proofs.Fields.Stability
import EffectFlow.Proofs.Json.Numerals
import EffectFlow.Proofs.Json.OneLine
import EffectFlow.Proofs.Json.Records
import EffectFlow.Proofs.Json.Spelling
import EffectFlow.Proofs.Json.Strings
import EffectFlow.Proofs.Json.Values
import EffectFlow.Proofs.Pipeline.Codec
import EffectFlow.Proofs.Pipeline.Lifting
import EffectFlow.Proofs.Pipeline.NormalForms
import EffectFlow.Proofs.Pipeline.Numbering
import EffectFlow.Proofs.Pipeline.Paths
import EffectFlow.Proofs.Pipeline.Preorder
import EffectFlow.Proofs.Pipeline.Texts
import EffectFlow.Proofs.Program.Acyclic
import EffectFlow.Proofs.Program.Chains
import EffectFlow.Proofs.Program.Checks
import EffectFlow.Proofs.Program.Codec
import EffectFlow.Proofs.Program.Trees
import EffectFlow.Proofs.Program.Visits
import EffectFlow.Proofs.Program.Walks
import EffectFlow.Proofs.Rebuild.Appending
import EffectFlow.Proofs.Rebuild.Arranged
import EffectFlow.Proofs.Rebuild.BlockParams
import EffectFlow.Proofs.Rebuild.Building
import EffectFlow.Proofs.Rebuild.Composites
import EffectFlow.Proofs.Rebuild.Criteria
import EffectFlow.Proofs.Rebuild.Documents
import EffectFlow.Proofs.Rebuild.Kept
import EffectFlow.Proofs.Rebuild.Nodes
import EffectFlow.Proofs.Rebuild.Normalising
import EffectFlow.Proofs.Rebuild.Outlines
import EffectFlow.Proofs.Rebuild.Programs
import EffectFlow.Proofs.Rebuild.Pruned
import EffectFlow.Proofs.Rebuild.Settled
import EffectFlow.Proofs.Rebuild.Shuffled
import EffectFlow.Proofs.Rebuild.Trees
import EffectFlow.Proofs.Registry.Agreement
import EffectFlow.Proofs.Registry.Dice
import EffectFlow.Proofs.Registry.Index
import EffectFlow.Proofs.Registry.Parameters
import EffectFlow.Proofs.Registry.References
import EffectFlow.Proofs.Registry.Runs
import EffectFlow.Proofs.Registry.Tags
import EffectFlow.Proofs.Session.Erasure
import EffectFlow.Proofs.Session.InStep
import EffectFlow.Proofs.Validation.Audit
import EffectFlow.Proofs.Validation.Compiled
import EffectFlow.Proofs.Validation.Errors
import EffectFlow.Proofs.Validation.Fit
import EffectFlow.Proofs.Validation.Layers
import EffectFlow.Proofs.Validation.Lifting
import EffectFlow.Proofs.Validation.Lines
import EffectFlow.Proofs.Validation.Listings
import EffectFlow.Proofs.Validation.Orders
import EffectFlow.Proofs.Validation.Places
import EffectFlow.Proofs.Validation.Visits
import EffectFlow.Rebuild.Layout
import EffectFlow.Rebuild.Plan
import EffectFlow.Registry.Basic
import EffectFlow.Registry.Dice
import EffectFlow.Registry.Index
import EffectFlow.Registry.Json
import EffectFlow.Registry.Parameter
import EffectFlow.Registry.Snapshot
import EffectFlow.Registry.Source
import EffectFlow.Session
import EffectFlow.Text.Blank
import EffectFlow.Text.Cased
import EffectFlow.Text.CodePoints
import EffectFlow.Text.Cut
import EffectFlow.Text.Lowercase
import EffectFlow.Text.Printable
import EffectFlow.Text.Quoted
import EffectFlow.Trigger
import EffectFlow.Validation.Legacy
import EffectFlow.Validation.Path
import EffectFlow.Validation.Problem
import EffectFlow.Validation.Report
import EffectFlow.Validation.Validator

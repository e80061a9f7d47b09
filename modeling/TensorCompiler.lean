import TensorCompiler.Build.Awk.Machine
import TensorCompiler.Build.Awk.Read
import TensorCompiler.Build.Awk.Run
import TensorCompiler.Build.Awk.Token
import TensorCompiler.Build.Awk.Value
import TensorCompiler.Build.Command
import TensorCompiler.Build.Command
import TensorCompiler.Build.Disk
import TensorCompiler.Build.Pattern
import TensorCompiler.Build.Regex
import TensorCompiler.Build.Script.Basic
import TensorCompiler.Build.Script.Parameter
import TensorCompiler.Build.Script.Quote
import TensorCompiler.Build.Script.Read
import TensorCompiler.Build.Script.Reader
import TensorCompiler.Build.Script.Token
import TensorCompiler.Build.Shell.Arithmetic
import TensorCompiler.Build.Shell.Basic
import TensorCompiler.Build.Shell.Builtin
import TensorCompiler.Build.Shell.Declare
import TensorCompiler.Build.Shell.Expand
import TensorCompiler.Build.Shell.Extended
import TensorCompiler.Build.Shell.Input
import TensorCompiler.Build.Shell.Number
import TensorCompiler.Build.Shell.Parameter
import TensorCompiler.Build.Shell.Run
import TensorCompiler.Build.Shell.Test
import TensorCompiler.Build.Shell.Variable
import TensorCompiler.Build.Shell.Wrapper
import TensorCompiler.Build.Tool.Alignment
import TensorCompiler.Build.Tool.Basic
import TensorCompiler.Build.Tool.Calendar
import TensorCompiler.Build.Tool.Characters
import TensorCompiler.Build.Tool.Condition
import TensorCompiler.Build.Tool.Difference
import TensorCompiler.Build.Tool.Digests
import TensorCompiler.Build.Tool.Dump
import TensorCompiler.Build.Tool.Edit
import TensorCompiler.Build.Tool.Files
import TensorCompiler.Build.Tool.Find
import TensorCompiler.Build.Tool.Format
import TensorCompiler.Build.Tool.Lines
import TensorCompiler.Build.Tool.Merge
import TensorCompiler.Build.Tool.Modes
import TensorCompiler.Build.Tool.Numbers
import TensorCompiler.Build.Tool.Pieces
import TensorCompiler.Build.Tool.Placing
import TensorCompiler.Build.Tool.Search
import TensorCompiler.Build.Tool.Sort
import TensorCompiler.Build.Tool.Table
import TensorCompiler.Build.Tool.Values
import TensorCompiler.CommandLine.ListFlag
import TensorCompiler.Compile.Basic
import TensorCompiler.Compile.EntryPoint
import TensorCompiler.Config.Basic
import TensorCompiler.Container.Ordered
import TensorCompiler.Device.Handle
import TensorCompiler.Digest.Checksum
import TensorCompiler.Digest.Sha2
import TensorCompiler.Duration.Basic
import TensorCompiler.Emit.Source
import TensorCompiler.Emit.Statement
import TensorCompiler.Emit.Writer
import TensorCompiler.Kernel.Basic
import TensorCompiler.Kernel.Graph
import TensorCompiler.Kernel.Registry
import TensorCompiler.Linked.Eval
import TensorCompiler.Linked.Image
import TensorCompiler.Linked.Library
import TensorCompiler.Linked.Node
import TensorCompiler.Log
import TensorCompiler.Log.Markup
import TensorCompiler.Lowered.Node
import TensorCompiler.Lowering.Outline
import TensorCompiler.Lowering.Session
import TensorCompiler.Lowering.Slots
import TensorCompiler.ModuleFile.Basic
import TensorCompiler.ModuleFile.Read
import TensorCompiler.ModuleFile.Token
import TensorCompiler.Names.Supply
import TensorCompiler.Number.Float
import TensorCompiler.Number.Nearest
import TensorCompiler.Program.Inventory
import TensorCompiler.Proofs.Config.RoundTrip
import TensorCompiler.Proofs.Container.Ordered
import TensorCompiler.Proofs.Container.Slice
import TensorCompiler.Proofs.Duration.Reading
import TensorCompiler.Proofs.Emit.Account
import TensorCompiler.Proofs.Emit.Artifacts
import TensorCompiler.Proofs.Emit.Emission
import TensorCompiler.Proofs.Emit.Evaluator
import TensorCompiler.Proofs.Emit.Hygiene
import TensorCompiler.Proofs.Emit.Named
import TensorCompiler.Proofs.Emit.Paired
import TensorCompiler.Proofs.Emit.Refinement
import TensorCompiler.Proofs.Emit.Scope
import TensorCompiler.Proofs.Emit.Simulation
import TensorCompiler.Proofs.Emit.Written
import TensorCompiler.Proofs.Fingerprint.Canonical
import TensorCompiler.Proofs.Fingerprint.Reading
import TensorCompiler.Proofs.Fingerprint.Renaming
import TensorCompiler.Proofs.Fingerprint.Skeleton
import TensorCompiler.Proofs.Fingerprint.Types
import TensorCompiler.Proofs.Kernel.Announced
import TensorCompiler.Proofs.Kernel.Computation
import TensorCompiler.Proofs.Kernel.History
import TensorCompiler.Proofs.Kernel.Inlining
import TensorCompiler.Proofs.Kernel.OutputCell
import TensorCompiler.Proofs.Kernel.Reuse
import TensorCompiler.Proofs.Kernel.Unnamed
import TensorCompiler.Proofs.Linked.Registration
import TensorCompiler.Proofs.Lowering.Compilations
import TensorCompiler.Proofs.Lowering.Discipline
import TensorCompiler.Proofs.Lowering.Failure
import TensorCompiler.Proofs.Lowering.FinishingOrder
import TensorCompiler.Proofs.Lowering.LoweredForm
import TensorCompiler.Proofs.Lowering.Reachability
import TensorCompiler.Proofs.Lowering.Refusal
import TensorCompiler.Proofs.Lowering.Resolution
import TensorCompiler.Proofs.Lowering.Slots
import TensorCompiler.Proofs.Lowering.SourceAlone
import TensorCompiler.Proofs.Lowering.Termination
import TensorCompiler.Proofs.Lowering.Translation
import TensorCompiler.Proofs.Lowering.Traversal
import TensorCompiler.Proofs.Lowering.Workspace
import TensorCompiler.Proofs.Meaning.Compilation
import TensorCompiler.Proofs.Meaning.Compiled
import TensorCompiler.Proofs.Meaning.Evaluator
import TensorCompiler.Proofs.Meaning.Frames
import TensorCompiler.Proofs.Meaning.Inventory
import TensorCompiler.Proofs.Meaning.Kernels
import TensorCompiler.Proofs.Meaning.Linkage
import TensorCompiler.Proofs.Meaning.Preservation
import TensorCompiler.Proofs.Meaning.Ready
import TensorCompiler.Proofs.Meaning.Realized
import TensorCompiler.Proofs.Meaning.Relation
import TensorCompiler.Proofs.Meaning.Reserve
import TensorCompiler.Proofs.Meaning.Scope
import TensorCompiler.Proofs.Meaning.Simulation
import TensorCompiler.Proofs.Names.History
import TensorCompiler.Proofs.Names.Supply
import TensorCompiler.Proofs.Number.DecimalText
import TensorCompiler.Proofs.Number.FloatText
import TensorCompiler.Proofs.Number.ShortestValue
import TensorCompiler.Proofs.Outcome
import TensorCompiler.Proofs.Safety.EntryPoints
import TensorCompiler.Proofs.Safety.Independence
import TensorCompiler.Proofs.Safety.OlderFrames
import TensorCompiler.Proofs.Safety.Silence
import TensorCompiler.Proofs.Safety.Soundness
import TensorCompiler.Proofs.Safety.Watch
import TensorCompiler.Proofs.Syntax.Arena
import TensorCompiler.Proofs.Tensor.ArrayText
import TensorCompiler.Proofs.Tensor.ElementText
import TensorCompiler.Proofs.Tensor.Reachable
import TensorCompiler.Proofs.Text.Delimited
import TensorCompiler.Proofs.Value.Description
import TensorCompiler.Proofs.Value.Matcher
import TensorCompiler.Proofs.Value.RoundTrip
import TensorCompiler.Syntax.Build
import TensorCompiler.Syntax.Expr
import TensorCompiler.Syntax.Fingerprint
import TensorCompiler.Syntax.Module
import TensorCompiler.Syntax.Print
import TensorCompiler.Syntax.Ty
import TensorCompiler.Tensor.Arith
import TensorCompiler.Tensor.Basic
import TensorCompiler.Tensor.Elements
import TensorCompiler.Tensor.Kind
import TensorCompiler.Tensor.Operator
import TensorCompiler.Tensor.Shape
import TensorCompiler.Text.Basic
import TensorCompiler.Text.Character
import TensorCompiler.Text.Printable
import TensorCompiler.Text.Quoted
import TensorCompiler.Toml.Document
import TensorCompiler.Toml.Scan
import TensorCompiler.Toml.Token
import TensorCompiler.Toml.Value
import TensorCompiler.Value.Basic
import TensorCompiler.Value.Host
import TensorCompiler.Value.Matcher

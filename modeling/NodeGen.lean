import NodeGen.Descriptor.Grammar
import NodeGen.Main
import NodeGen.Proofs.Result
import NodeGen.Proofs.Gate.Replay
import NodeGen.Proofs.Gate.Conduct
import NodeGen.Proofs.Gate.Consent
import NodeGen.Proofs.Gate.Trail
import NodeGen.Proofs.Gate.Verdict
import NodeGen.Proofs.Files.Tree
import NodeGen.Proofs.Files.Resolve
import NodeGen.Proofs.Files.WellFormed
import NodeGen.Proofs.Files.Directories
import NodeGen.Proofs.Files.Disk
import NodeGen.Proofs.Files.Progress
import NodeGen.Proofs.Files.Moments
import NodeGen.Proofs.Files.Rewrite
import NodeGen.Proofs.Descriptor.Derivation
import NodeGen.Proofs.Descriptor.Parsing
import NodeGen.Proofs.Descriptor.Scanning
import NodeGen.Proofs.Descriptor.Printing
import NodeGen.Proofs.GoSource.Types
import NodeGen.Proofs.GoSource.Lines
import NodeGen.Proofs.GoSource.Reader
import NodeGen.Proofs.Generator.Translation
import NodeGen.Proofs.Generator.Dispatch
import NodeGen.Proofs.Generator.Faithful
import NodeGen.Proofs.CommandLine.Session
import NodeGen.Proofs.GoSource.Nesting
import NodeGen.Proofs.Descriptor.Faults
import NodeGen.Proofs.Confirmation.Flags
import NodeGen.Proofs.Confirmation.Lines
import NodeGen.Proofs.Gate.Answers
import NodeGen.Proofs.Gate.Formatters
import NodeGen.Proofs.CommandLine.Isolation
import NodeGen.Proofs.Descriptor.Cutting
import NodeGen.Proofs.Generator.Selection
import NodeGen.Proofs.Descriptor.Spacing
import NodeGen.Proofs.Files.Joining
import NodeGen.Proofs.Files.Series
import NodeGen.Proofs.CommandLine.Printing
import NodeGen.Proofs.Descriptor.Wrapping
import NodeGen.Proofs.Generator.Columns
import NodeGen.Proofs.GoSource.Execution
import NodeGen.Proofs.Generator.Construction
import NodeGen.Proofs.Generator.Rejection
import NodeGen.Proofs.Text.Utf8
import NodeGen.Proofs.Text.Trimming
import NodeGen.Proofs.Confirmation.Dialogue
import NodeGen.Proofs.Confirmation.Independence
import NodeGen.Proofs.Gate.Reuse
import NodeGen.Proofs.GoSource.Layout
import NodeGen.Proofs.Generator.Layout
import NodeGen.Proofs.Generator.Insertion
import NodeGen.Proofs.Generator.BaseTypes

import WorkflowLint.Files.Tree
import WorkflowLint.Main
import WorkflowLint.Proofs.Check
import WorkflowLint.Proofs.Emission
import WorkflowLint.Proofs.References.Expected
import WorkflowLint.Proofs.Reports.Machine
import WorkflowLint.Proofs.Trigger
import WorkflowLint.Proofs.Reports.Reading
import WorkflowLint.Proofs.Yaml.Messages
import WorkflowLint.Proofs.Advice
import WorkflowLint.Proofs.Reports.LineBreaks
import WorkflowLint.Proofs.Influence
import WorkflowLint.Proofs.Registry
import WorkflowLint.Proofs.Yaml.Keys
import WorkflowLint.Proofs.Roots
import WorkflowLint.Proofs.Tags
import WorkflowLint.Proofs.Reordering
import WorkflowLint.Proofs.Steps
import WorkflowLint.Proofs.Policies.Overlay
import WorkflowLint.Proofs.Writing
import WorkflowLint.Proofs.References.Lines
import WorkflowLint.Proofs.Reports.Colors
import WorkflowLint.Proofs.Remarks
import WorkflowLint.Proofs.Arguments
import WorkflowLint.Proofs.Parts
import WorkflowLint.Proofs.Letters
import WorkflowLint.Proofs.Scripts

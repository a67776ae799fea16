import ServiceWriter.Main
import ServiceWriter.Code.Kind
import ServiceWriter.CommandLine.Machine
import ServiceWriter.Defect.Casebook
import ServiceWriter.Proofs.CSharp.Rejection
import ServiceWriter.Proofs.CSharp.Unambiguous
import ServiceWriter.Proofs.Service.Pipeline
import ServiceWriter.Proofs.TypeScript.Imports
import ServiceWriter.Proofs.TypeScript.Binding
import ServiceWriter.Proofs.Scope.Block
import ServiceWriter.Proofs.Service.Hygiene
import ServiceWriter.Proofs.Execution.Evaluation
import ServiceWriter.Proofs.Execution.Rules
import ServiceWriter.Proofs.Service.Serializing
import ServiceWriter.Proofs.Service.Capability
import ServiceWriter.Proofs.TypeScript.Rejection
import ServiceWriter.Proofs.Walk.Reuse
import ServiceWriter.Proofs.CommandLine.Delivery
import ServiceWriter.Proofs.CSharp.Pieces
import ServiceWriter.Proofs.CSharp.Names
import ServiceWriter.Proofs.TypeScript.Names
import ServiceWriter.Proofs.TypeScript.MethodNames
import ServiceWriter.Proofs.TypeScript.TypePositions
import ServiceWriter.Proofs.CSharp.TypeReferences
import ServiceWriter.Proofs.CSharp.Targets
import ServiceWriter.Proofs.CSharp.LineEnds
import ServiceWriter.Proofs.CSharp.Outline
import ServiceWriter.Proofs.CSharp.Composition
import ServiceWriter.Proofs.TypeScript.Declarations
import ServiceWriter.Proofs.CSharp.Literals
import ServiceWriter.Proofs.Defect.History
import ServiceWriter.Proofs.Defect.Merging
import ServiceWriter.Proofs.Service.Decoration
import ServiceWriter.Proofs.Text.Words
import ServiceWriter.Proofs.Code.WordFile
import ServiceWriter.Proofs.Service.Documents
import ServiceWriter.Proofs.CommandLine.Arguments

import RegistrySchema.Json.Quoted
import RegistrySchema.Main
import RegistrySchema.Proofs.Ancestors
import RegistrySchema.Proofs.BlockWalk
import RegistrySchema.Proofs.Catalog
import RegistrySchema.Proofs.ClassTable
import RegistrySchema.Proofs.EntityWalk
import RegistrySchema.Proofs.EnumUnification
import RegistrySchema.Proofs.Extraction
import RegistrySchema.Proofs.Overriding
import RegistrySchema.Proofs.Renaming
import RegistrySchema.Proofs.Report.Check
import RegistrySchema.Proofs.Report.Findings
import RegistrySchema.Proofs.Report.Grammar
import RegistrySchema.Proofs.Report.Reemission
import RegistrySchema.Proofs.Report.RoundTrip
import RegistrySchema.Proofs.Report.Stripping
import RegistrySchema.Proofs.Snapshot.ClassNames
import RegistrySchema.Proofs.SourcePath
import RegistrySchema.Proofs.WalkOrder
import RegistrySchema.Proofs.Ancestors.Completeness
import RegistrySchema.Proofs.Bisimulation
import RegistrySchema.Proofs.Snapshot.Links
import RegistrySchema.Proofs.Snapshot.Entities
import RegistrySchema.Proofs.Snapshot.Likeness
import RegistrySchema.Proofs.Snapshot.ClassEdits
import RegistrySchema.Proofs.Snapshot.Skipping
import RegistrySchema.Proofs.Snapshot.Handles
import RegistrySchema.Proofs.Snapshot.HandleRun
import RegistrySchema.Proofs.Identifier
import RegistrySchema.Proofs.Snapshot.Decoding
import RegistrySchema.Proofs.Snapshot.Kinds
import RegistrySchema.Proofs.Snapshot.Intake
import RegistrySchema.Proofs.Sink
import RegistrySchema.Proofs.Snapshot.RecordNames
import RegistrySchema.Proofs.FileSystem.Replace
import RegistrySchema.Proofs.CommandLine.Storing
import RegistrySchema.Proofs.Buffering
import RegistrySchema.Proofs.Report.Places
import RegistrySchema.Proofs.Report.Concerns
import RegistrySchema.Proofs.Report.LineEnds
import RegistrySchema.Proofs.Snapshot.DocumentEdits
import RegistrySchema.Proofs.Delivery
import RegistrySchema.Proofs.Termination
import RegistrySchema.Proofs.Underlining
import RegistrySchema.Proofs.Snapshot.Spelling

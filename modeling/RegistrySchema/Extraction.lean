import RegistrySchema.BlockWalk
import RegistrySchema.EntityWalk
import RegistrySchema.Report.Writer
import RegistrySchema.Sink
import RegistrySchema.Snapshot.Basic

/-!
# Extractions

An extraction walks over the block kinds and then over the entity kinds of a host. It learns the
schema that a report shows, and what is to be said about the run.
-/

namespace RegistrySchema

/-- What a run learned. -/
structure Extraction where
  /-- What the report shows. -/
  schema : Schema
  /-- The findings of both walks. -/
  diagnostics : List Diagnostic
  /-- What both walks said about their progress. -/
  log : List Log.Entry

namespace Extraction

variable {τ : Type} [DecidableEq τ]

/-- Put the results of the walks together. -/
def ofWalks (blocks : BlockWalk) (entities : EntityWalk) : Extraction where
  schema := ⟨blocks.records, blocks.enums, entities.records, entities.classes⟩
  diagnostics := blocks.diagnostics ++ entities.diagnostics
  log := blocks.log ++ entities.log

/-- Extract from a host. -/
def ofHost (blocks : Registry BlockKind) (entities : Registry Identifier) (factory : Factory τ)
    (graph : TypeGraph τ) (settings : Settings) : Extraction :=
  ofWalks (BlockWalk.run Overrides.wellKnown settings Catalog.empty blocks)
    (EntityWalk.run graph factory settings entities)

/-- Extract from a snapshot. -/
def ofSnapshot (snapshot : Snapshot) (settings : Settings) : Extraction :=
  ofHost snapshot.blocks snapshot.entityRegistry snapshot.factory snapshot.classes.types settings

/-- The text of the report. -/
def reportText (extraction : Extraction) : String := extraction.schema.reportText

/-- The bytes of the report. -/
def reportBytes (extraction : Extraction) : List UInt8 := Text.encode extraction.schema.reportChars

/-- The bytes of a report are those of its text. -/
theorem reportBytes_eq (extraction : Extraction) :
    extraction.reportBytes = Text.encode extraction.reportText.toList := by
  rw [reportBytes, reportText, Schema.reportText, String.toList_ofList]

/-- Write the report to a sink as a whole and have it passed on. -/
def write (extraction : Extraction) (sink : Sink) : Sink.Written :=
  (sink.writeAll extraction.reportBytes).andThen Sink.flush

end Extraction

end RegistrySchema

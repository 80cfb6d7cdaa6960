import PageBuilder.Canvas.Basic
import PageBuilder.Source.Basic
/-! Bindings follow the sources and samples that still exist. -/
namespace PageBuilder

def PlacedBlock.clearSource (sourceId : String) (block : PlacedBlock) : PlacedBlock :=
  if block.binding.any fun b => b.sourceId = sourceId then { block with binding := none }
  else block

/-- Unpins a sample; source and mappings stay. -/
def DataBinding.clearSample (sourceId sampleId : String) (b : DataBinding) : DataBinding :=
  if b.sourceId = sourceId ∧ b.sampleId = some sampleId then { b with sampleId := none } else b

def PlacedBlock.clearSample (sourceId sampleId : String) (block : PlacedBlock) : PlacedBlock :=
  { block with binding := block.binding.map (DataBinding.clearSample sourceId sampleId) }

/-- Unbinds every block of a source. -/
def Canvas.clearSource (canvas : Canvas) (sourceId : String) : Canvas :=
  canvas.mapBlocks (.clearSource sourceId)

def Canvas.clearSample (canvas : Canvas) (sourceId sampleId : String) : Canvas :=
  canvas.mapBlocks (.clearSample sourceId sampleId)

/-- The binding against all the sources there are: it goes with its source, and
lets go of a sample that its source lacks. Of two sources with one id the later
one counts. -/
def DataBinding.reconcile (sources : List DataSource) (b : DataBinding) : Option DataBinding :=
  (sources.reverse.find? fun s => s.id = b.sourceId).map fun source =>
    if b.sampleId.any fun id => (source.sample? id).isNone then { b with sampleId := none } else b

def Canvas.reconcile (canvas : Canvas) (sources : List DataSource) : Canvas :=
  canvas.mapBlocks fun block =>
    { block with binding := block.binding.bind (DataBinding.reconcile sources) }

end PageBuilder

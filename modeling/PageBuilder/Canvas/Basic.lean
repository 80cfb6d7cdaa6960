import PageBuilder.Block.Repair
/-! The canvas: the blocks of a page in their order, and which one is selected. -/
namespace PageBuilder

open Json (Value)

/-- The value at `sourcePath` in a block's data supplies the prop `targetProp`. -/
structure FieldMapping where
  sourcePath : String
  targetProp : String
  deriving DecidableEq, Repr

/-- A block's link to a data source and, if one is pinned, to a sample of it. -/
structure DataBinding where
  sourceId : String
  sampleId : Option String
  fieldMappings : Option (List FieldMapping)
  deriving DecidableEq, Repr

/-- The declared mappings, none where the list is absent. -/
def DataBinding.mappings (binding : DataBinding) : List FieldMapping :=
  binding.fieldMappings.getD []

/-- A block as it is stored. Neither its kind nor its props need to be valid. -/
structure PlacedBlock where
  instanceId : String
  blockId : String
  props : Value
  notes : Option String
  binding : Option DataBinding
  deriving DecidableEq, Repr

def PlacedBlock.kind? (block : PlacedBlock) : Option Block.Kind :=
  Block.Kind.ofId? block.blockId

/-- The block as the renderers see it; `none` for a kind outside the palette. -/
def PlacedBlock.props? (block : PlacedBlock) : Option Block.Props :=
  block.kind?.map fun kind => .repair kind block.props

structure Canvas where
  blocks : List PlacedBlock
  selectedId : Option String
  deriving DecidableEq, Repr

namespace Canvas

/-- No blocks and no selection. -/
def empty : Canvas := ⟨[], none⟩

def block? (canvas : Canvas) (instanceId : String) : Option PlacedBlock :=
  canvas.blocks.find? fun b => b.instanceId = instanceId

/-- A selection of a block that is not there reads as none. -/
def selected? (canvas : Canvas) : Option PlacedBlock :=
  canvas.selectedId.bind canvas.block?

def instanceIds (canvas : Canvas) : List String :=
  canvas.blocks.map PlacedBlock.instanceId

/-- Changes every block by itself; the selection stays. -/
def mapBlocks (change : PlacedBlock → PlacedBlock) (canvas : Canvas) : Canvas :=
  { canvas with blocks := canvas.blocks.map change }

end Canvas

end PageBuilder

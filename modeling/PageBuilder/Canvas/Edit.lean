import PageBuilder.Canvas.Basic
/-! Editing a canvas. Every operation gives the next canvas; ids of new blocks come
from the caller, who draws them. -/
namespace PageBuilder

open Json (Value)

/-- The id of a block made from a freshly drawn name. -/
def instanceIdOf (drawn : String) : String :=
  "block-" ++ drawn

/-- A new block of a kind, with the props such a block starts with. -/
def PlacedBlock.new (kind : Block.Kind) (instanceId : String) : PlacedBlock where
  instanceId := instanceId
  blockId := kind.id
  props := (Block.Props.new kind).toValue
  notes := none
  binding := none

namespace Canvas

/-- The canvas of a new project: a hero, which is selected, stats and a workflow. -/
def starter (hero stats workflow : String) : Canvas where
  blocks := [.new .hero hero, .new .stats stats, .new .workflow workflow]
  selectedId := some hero

/-- Appends a new block and selects it. -/
def add (canvas : Canvas) (kind : Block.Kind) (instanceId : String) : Canvas where
  blocks := canvas.blocks ++ [.new kind instanceId]
  selectedId := some instanceId

def firstId? (blocks : List PlacedBlock) : Option String :=
  blocks.head?.map PlacedBlock.instanceId

/-- Removes a block; if it was selected, the first one left is selected. -/
def remove (canvas : Canvas) (instanceId : String) : Canvas :=
  let blocks := canvas.blocks.filter fun b => b.instanceId ≠ instanceId
  ⟨blocks, if canvas.selectedId = some instanceId then firstId? blocks else canvas.selectedId⟩

def index? (canvas : Canvas) (instanceId : String) : Option Nat :=
  canvas.blocks.findIdx? fun b => b.instanceId = instanceId

/-- Takes the element at one index out and puts it back at another. -/
def relocate (source target : Nat) (blocks : List PlacedBlock) : List PlacedBlock :=
  match blocks[source]? with
  | some moved => (blocks.eraseIdx source).insertIdx target moved
  | none => blocks

/-- Moves a block to the index of another one. The selection stays if it names a
block. Ids that are equal or unknown move nothing. -/
def move (canvas : Canvas) (activeId overId : String) : Canvas :=
  if activeId = overId then canvas
  else
    match canvas.index? activeId, canvas.index? overId with
    | some source, some target =>
      let blocks := relocate source target canvas.blocks
      let known := canvas.selectedId.any fun id => blocks.any fun b => b.instanceId = id
      ⟨blocks, if known then canvas.selectedId else firstId? blocks⟩
    | _, _ => canvas

def select (canvas : Canvas) (instanceId : String) : Canvas :=
  { canvas with selectedId := some instanceId }

/-- Changes the blocks of an id. -/
def update (canvas : Canvas) (instanceId : String) (change : PlacedBlock → PlacedBlock) : Canvas :=
  canvas.mapBlocks fun b => if b.instanceId = instanceId then change b else b

def updateProps (canvas : Canvas) (instanceId : String) (props : Value) : Canvas :=
  canvas.update instanceId fun b => { b with props := props }

/-- Blank notes are no notes. -/
def updateNotes (canvas : Canvas) (instanceId : String) (notes : String) : Canvas :=
  canvas.update instanceId fun b =>
    { b with notes := if Text.isBlank notes then none else some notes }

def updateBinding (canvas : Canvas) (instanceId : String) (binding : Option DataBinding) :
    Canvas :=
  canvas.update instanceId fun b => { b with binding := binding }

end Canvas

end PageBuilder

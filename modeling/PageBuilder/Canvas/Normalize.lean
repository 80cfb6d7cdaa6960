import PageBuilder.Canvas.Basic
/-! Canvases with valid props, and the comparison by which an edit counts as a
change. -/
namespace PageBuilder

/-- A block of a known kind gets repaired props; any other one stays as it is. -/
def PlacedBlock.normalize (block : PlacedBlock) : PlacedBlock :=
  match block.props? with
  | some props => { block with props := props.toValue }
  | none => block

def Canvas.normalize (canvas : Canvas) : Canvas :=
  canvas.mapBlocks PlacedBlock.normalize

/-- Whether two blocks show the same: props count as repaired if the kind is known
and as stored if it is not. -/
def PlacedBlock.equivalent (a b : PlacedBlock) : Bool :=
  a.blockId = b.blockId && a.instanceId = b.instanceId &&
    (match a.kind? with
      | some kind => Block.Props.repair kind a.props = Block.Props.repair kind b.props
      | none => a.props.same b.props) &&
    a.notes = b.notes && a.binding = b.binding

def Canvas.equivalentBlocks : List PlacedBlock → List PlacedBlock → Bool
  | [], [] => true
  | a :: as, b :: bs => a.equivalent b && equivalentBlocks as bs
  | _, _ => false

/-- Whether two canvases differ in nothing that has to be saved. -/
def Canvas.equivalent (a b : Canvas) : Bool :=
  a.selectedId = b.selectedId && equivalentBlocks a.blocks b.blocks

end PageBuilder

import PageBuilder.Canvas.Basic
import PageBuilder.Source.Basic
/-! The blocks of a canvas as generators see them: valid props, and the data of a
pinned sample. -/
namespace PageBuilder

open Json (Value)

structure PageSection where
  /-- The index on the page; names and element ids are made from it. -/
  position : Nat
  blockId : String
  /-- Absent for a block id outside the palette. -/
  props : Option Block.Props
  /-- Shown beneath the block. -/
  data : Option Value
  deriving DecidableEq, Repr

/-- The letters and digits of an id, with a capital wherever a run of them starts. -/
def pascalChars (starting : Bool) : List Char → List Char
  | [] => []
  | c :: rest =>
    if c.isAlphanum then (if starting then c.toUpper else c) :: pascalChars false rest
    else pascalChars true rest

/-- Digits at the front are left out; an id with nothing else is `Unknown`. -/
def pascalCase (id : String) : String :=
  match (pascalChars true id.toList).dropWhile Char.isDigit with
  | [] => "Unknown"
  | chars => String.ofList chars

namespace PageSection

/-- The name of the component that shows the section, such as `HeroBlock1`. -/
def componentName (s : PageSection) : String :=
  pascalCase s.blockId ++ "Block" ++ toString (s.position + 1)

/-- A block at a position, with the payload that its binding pins. -/
def ofBlock (sources : List DataSource) (position : Nat) (block : PlacedBlock) : PageSection where
  position := position
  blockId := block.blockId
  props := block.props?
  data := block.binding.bind fun b => pinnedPayload? sources b.sourceId b.sampleId

/-- Makes a section of every block, the first one at `position`. -/
def number (make : Nat → PlacedBlock → PageSection) (position : Nat) :
    List PlacedBlock → List PageSection
  | [] => []
  | block :: rest => make position block :: number make (position + 1) rest

end PageSection

/-- The sections of an export. Nothing is fetched for them. -/
def Canvas.sections (canvas : Canvas) (sources : List DataSource) : List PageSection :=
  PageSection.number (.ofBlock sources) 0 canvas.blocks

end PageBuilder

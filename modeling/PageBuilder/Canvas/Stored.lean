import PageBuilder.Canvas.Basic
import PageBuilder.Json.ShapeReader
/-! Canvases as JSON. A stored canvas degrades field by field: an optional field of
the wrong form reads as absent, and only a block without both of its ids is lost. -/
namespace PageBuilder

open Json (Value Shape Mismatch Failure)

/-- A member if the field holds something, none otherwise. -/
def optionalMember (key : String) (value : Option Value) : Json.Members :=
  match value with
  | some v => [(key, v)]
  | none => []

def orNull (text : Option String) : Value :=
  match text with
  | some s => .string s
  | none => .null

/-! ### Field mappings -/

def FieldMapping.toValue (m : FieldMapping) : Value :=
  .object [("sourcePath", .string m.sourcePath), ("targetProp", .string m.targetProp)]

def FieldMapping.shape : Shape :=
  .record "FieldMapping" [.required "sourcePath" .string, .required "targetProp" .string]

def FieldMapping.ofPlain (v : Value) : FieldMapping :=
  ⟨v.textAt "sourcePath", v.textAt "targetProp"⟩

def FieldMapping.readList (v : Value) : Except Mismatch (List FieldMapping) := do
  let plain ← (Shape.list shape).conform v
  return (plain.items?.getD []).map ofPlain

/-! ### Bindings -/

def DataBinding.toValue (b : DataBinding) : Value :=
  .object ([("sourceId", .string b.sourceId), ("sampleId", orNull b.sampleId)] ++
    optionalMember "fieldMappings"
      (b.fieldMappings.map fun mappings => .array (mappings.map FieldMapping.toValue)))

def DataBinding.shape : Shape :=
  .record "DataBinding"
    [.required "sourceId" .string, .optional "sampleId" .any, .optional "fieldMappings" .any]

def DataBinding.ofPlain (v : Value) : DataBinding where
  sourceId := v.textAt "sourceId"
  sampleId := v.textAt? "sampleId"
  fieldMappings := (FieldMapping.readList (v.valueAt "fieldMappings")).toOption

def DataBinding.read (v : Value) : Except Mismatch DataBinding :=
  (shape.conform v).map ofPlain

/-! ### Blocks -/

def PlacedBlock.toValue (b : PlacedBlock) : Value :=
  .object ([("instanceId", .string b.instanceId), ("blockId", .string b.blockId),
      ("props", b.props)] ++
    optionalMember "notes" (b.notes.map .string) ++
    optionalMember "dataBinding" (b.binding.map DataBinding.toValue))

def PlacedBlock.shape : Shape :=
  .record "BlockInstance"
    [.required "instanceId" .string, .required "blockId" .string, .optional "props" .any,
      .optional "notes" .any, .optional "dataBinding" .any]

def PlacedBlock.ofPlain (v : Value) : PlacedBlock where
  instanceId := v.textAt "instanceId"
  blockId := v.textAt "blockId"
  props := v.valueAt "props"
  notes := v.textAt? "notes"
  binding := (DataBinding.read (v.valueAt "dataBinding")).toOption

def PlacedBlock.read (v : Value) : Except Mismatch PlacedBlock :=
  (shape.conform v).map ofPlain

/-! ### Canvases -/

namespace Canvas

def toValue (c : Canvas) : Value :=
  .object [("blocks", .array (c.blocks.map PlacedBlock.toValue)),
    ("selectedInstanceId", orNull c.selectedId)]

def shape : Shape :=
  .record "CanvasState" [.optional "blocks" .any, .optional "selectedInstanceId" .any]

/-- The items that can be read as blocks. -/
def readBlocks (items : List Value) : List PlacedBlock :=
  items.filterMap fun item => (PlacedBlock.read item).toOption

def ofPlain (v : Value) : Canvas where
  blocks := readBlocks (v.itemsAt "blocks")
  selectedId := v.textAt? "selectedInstanceId"

def read (v : Value) : Except Mismatch Canvas :=
  (shape.conform v).map ofPlain

def parse (text : String) : Except Failure Canvas :=
  (shape.parse text).map ofPlain

end Canvas

end PageBuilder

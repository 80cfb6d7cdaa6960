import PageBuilder.Canvas.Stored
import PageBuilder.Proofs.Json.Shape
/-! Reading what was written gives every canvas back, and likewise its parts. What is
written is in the plain form of its shape, so the reader takes it as it is. -/
namespace PageBuilder

open Json (Value conform_record_of_members conform_list_of_items)

@[simp] theorem string?_orNull (text : Option String) : (orNull text).string? = text := by
  cases text <;> rfl

/-! ### Field mappings -/

namespace FieldMapping

theorem conform_toValue (m : FieldMapping) : shape.conform m.toValue = .ok m.toValue :=
  conform_record_of_members (by simp) rfl

theorem ofPlain_toValue (m : FieldMapping) : ofPlain m.toValue = m := rfl

theorem readList_toValue (mappings : List FieldMapping) :
    readList (.array (mappings.map toValue)) = .ok mappings := by
  have plain : ∀ v ∈ mappings.map toValue, shape.conform v = .ok v := by
    intro v hv
    obtain ⟨m, -, rfl⟩ := List.mem_map.mp hv
    exact m.conform_toValue
  simp only [readList, conform_list_of_items plain]
  simp [bind, Except.bind, pure, Except.pure, Value.items?, Function.comp_def, ofPlain_toValue]

end FieldMapping

/-! ### Bindings -/

namespace DataBinding

theorem conform_toValue (b : DataBinding) : shape.conform b.toValue = .ok b.toValue := by
  apply conform_record_of_members
  · cases b.fieldMappings <;> simp [optionalMember]
  · cases b.fieldMappings <;> rfl

theorem ofPlain_toValue (b : DataBinding) : ofPlain b.toValue = b := by
  have sampleId : (ofPlain b.toValue).sampleId = b.sampleId := string?_orNull b.sampleId
  have fieldMappings : (ofPlain b.toValue).fieldMappings = b.fieldMappings := by
    rcases b with ⟨sourceId, sampleId, _ | mappings⟩
    · rfl
    · exact congrArg Except.toOption (FieldMapping.readList_toValue mappings)
  calc ofPlain b.toValue
    _ = ⟨b.sourceId, (ofPlain b.toValue).sampleId, (ofPlain b.toValue).fieldMappings⟩ := rfl
    _ = b := by rw [sampleId, fieldMappings]

theorem read_toValue (b : DataBinding) : read b.toValue = .ok b := by
  simp [read, conform_toValue, Except.map, ofPlain_toValue]

end DataBinding

/-! ### Blocks -/

namespace PlacedBlock

theorem conform_toValue (b : PlacedBlock) : shape.conform b.toValue = .ok b.toValue := by
  apply conform_record_of_members
  · cases b.notes <;> cases b.binding <;> simp [optionalMember]
  · cases b.notes <;> cases b.binding <;> rfl

theorem ofPlain_toValue (b : PlacedBlock) : ofPlain b.toValue = b := by
  have notes : (ofPlain b.toValue).notes = b.notes := by
    rcases b with ⟨_, _, _, _ | _, _ | _⟩ <;> rfl
  have binding : (ofPlain b.toValue).binding = b.binding := by
    rcases b with ⟨_, _, _, _ | _, _ | link⟩
    · rfl
    · exact congrArg Except.toOption link.read_toValue
    · rfl
    · exact congrArg Except.toOption link.read_toValue
  calc ofPlain b.toValue
    _ = ⟨b.instanceId, b.blockId, b.props, (ofPlain b.toValue).notes,
        (ofPlain b.toValue).binding⟩ := rfl
    _ = b := by rw [notes, binding]

theorem read_toValue (b : PlacedBlock) : read b.toValue = .ok b := by
  simp [read, conform_toValue, Except.map, ofPlain_toValue]

end PlacedBlock

/-! ### Canvases -/

namespace Canvas

theorem conform_toValue (c : Canvas) : shape.conform c.toValue = .ok c.toValue :=
  conform_record_of_members (by simp) rfl

theorem readBlocks_toValue (blocks : List PlacedBlock) :
    readBlocks (blocks.map PlacedBlock.toValue) = blocks := by
  have kept : (fun item => (PlacedBlock.read item).toOption) ∘ PlacedBlock.toValue = some := by
    funext b
    simp [PlacedBlock.read_toValue, Except.toOption]
  rw [readBlocks, List.filterMap_map, kept, List.filterMap_some]

theorem ofPlain_toValue (c : Canvas) : ofPlain c.toValue = c := by
  calc ofPlain c.toValue
    _ = ⟨readBlocks (c.blocks.map PlacedBlock.toValue), (orNull c.selectedId).string?⟩ := rfl
    _ = c := by rw [readBlocks_toValue, string?_orNull]

theorem read_toValue (c : Canvas) : read c.toValue = .ok c := by
  simp [read, conform_toValue, Except.map, ofPlain_toValue]

end Canvas

end PageBuilder

import PageBuilder.Canvas.Stored
import PageBuilder.Proofs.Json.Records
/-! Reading a stored value as a canvas, whatever the value is. Each field is read by
itself: a block needs its two ids and a binding its source, and anything else that is of
the wrong form is absent, and nothing more. -/
namespace PageBuilder

open Json (Value Shape Field conform_object_eq_ok_iff)

theorem Json.Value.items?_eq_some_iff {v : Value} {items : List Value} :
    v.items? = some items ↔ v = .array items := by
  cases v <;> simp [items?]

theorem Json.Value.items?_eq_none_of_isObject {v : Value} (h : v.isObject = true) :
    v.items? = none := by
  cases v <;> first | rfl | cases h

/-- A reader that looks at the fields alone, and at a value that is no array. -/
theorem read_eq_ok_iff_of_flat {α : Type} {name : String} {fields : List Field}
    {ofPlain : Value → α} (flat : ∀ f ∈ fields, f.isFlat = true)
    (distinct : (fields.map Field.name).Nodup)
    (same : ∀ v : Value, ofPlain (v.restrict (fields.map Field.name)) = ofPlain v)
    {v : Value} (h : v.items? = none) {a : α} :
    ((Shape.record name fields).conform v).map ofPlain = .ok a ↔
      (v.isObject = true ∧ ∀ f ∈ fields, f.isRequired = true → v.HoldsText f.name) ∧
        ofPlain v = a := by
  cases v with
  | object members =>
    simp only [map_eq_ok_iff, conform_object_eq_ok_iff flat distinct, and_assoc,
      exists_and_left, exists_eq_left', same, Value.isObject, true_and]
  | array items => cases h
  | null | bool | number | string =>
    simp [map_eq_ok_iff, Shape.conform, Json.wrongType, Value.isObject]

theorem toOption_eq_some_iff {ε α : Type} {x : Except ε α} {a : α} :
    x.toOption = some a ↔ x = .ok a := by
  cases x <;> simp [Except.toOption]

/-! ### Bindings and blocks -/

theorem DataBinding.read_eq_ok_iff {v : Value} (h : v.items? = none) {b : DataBinding} :
    read v = .ok b ↔ (v.isObject = true ∧ v.HoldsText "sourceId") ∧ ofPlain v = b := by
  have same (v : Value) :
      ofPlain (v.restrict ["sourceId", "sampleId", "fieldMappings"]) = ofPlain v := by
    simp [ofPlain, Value.textAt, Value.textOr, Value.textAt?, Value.valueAt,
      Value.member?_restrict]
  rw [read, shape, read_eq_ok_iff_of_flat (by decide) (by decide) same h]
  simp [Field.isRequired, Field.name]

theorem PlacedBlock.read_eq_ok_iff {v : Value} (h : v.items? = none) {b : PlacedBlock} :
    read v = .ok b ↔
      (v.isObject = true ∧ v.HoldsText "instanceId" ∧ v.HoldsText "blockId") ∧
        ofPlain v = b := by
  have same (v : Value) :
      ofPlain (v.restrict ["instanceId", "blockId", "props", "notes", "dataBinding"]) =
        ofPlain v := by
    simp [ofPlain, Value.textAt, Value.textOr, Value.textAt?, Value.valueAt,
      Value.member?_restrict]
  rw [read, shape, read_eq_ok_iff_of_flat (by decide) (by decide) same h]
  simp [Field.isRequired, Field.name]

/-- What is kept of the binding that stands in an item. -/
structure DataBinding.KeptOf (v : Value) (b : DataBinding) : Prop where
  sourceId : v.member? "sourceId" = some (.string b.sourceId)
  sampleId : b.sampleId = (v.member? "sampleId").bind Value.string?

/-- What is kept of an item of the list of blocks: its ids, any props, notes that are a
text, and a binding that is an object just if that has a source. -/
structure PlacedBlock.KeptOf (v : Value) (b : PlacedBlock) : Prop where
  instanceId : v.member? "instanceId" = some (.string b.instanceId)
  blockId : v.member? "blockId" = some (.string b.blockId)
  props : b.props = (v.member? "props").getD .null
  notes : b.notes = (v.member? "notes").bind Value.string?
  binding : ∀ w ∈ v.member? "dataBinding", w.isObject = true →
    (b.binding.isSome = true ↔ w.HoldsText "sourceId") ∧ ∀ link ∈ b.binding, link.KeptOf w

theorem DataBinding.keptOf_of_read {v : Value} (h : v.items? = none) {b : DataBinding}
    (read : DataBinding.read v = .ok b) : b.KeptOf v := by
  obtain ⟨⟨-, source⟩, rfl⟩ := (DataBinding.read_eq_ok_iff h).mp read
  exact ⟨source.member?_eq, rfl⟩

theorem PlacedBlock.keptOf_of_read {v : Value} (h : v.items? = none) {b : PlacedBlock}
    (read : PlacedBlock.read v = .ok b) : b.KeptOf v := by
  obtain ⟨⟨-, instanceId, blockId⟩, rfl⟩ := (PlacedBlock.read_eq_ok_iff h).mp read
  refine ⟨instanceId.member?_eq, blockId.member?_eq, rfl, rfl, fun w hw object => ?_⟩
  have plain := Value.items?_eq_none_of_isObject object
  have binding (link : DataBinding) :
      (ofPlain v).binding = some link ↔ DataBinding.read w = .ok link := by
    simp [ofPlain, Value.valueAt, Option.mem_def.mp hw, toOption_eq_some_iff]
  constructor
  · simp only [Option.isSome_iff_exists, binding, DataBinding.read_eq_ok_iff plain, object,
      true_and, exists_and_left, exists_eq', and_true]
  · exact fun link bound => DataBinding.keptOf_of_read plain ((binding link).mp bound)

/-! ### Canvases -/

namespace Canvas

theorem readBlocks_append (items more : List Value) :
    readBlocks (items ++ more) = readBlocks items ++ readBlocks more :=
  List.filterMap_append

theorem readBlocks_singleton (item : Value) :
    readBlocks [item] = (PlacedBlock.read item).toOption.toList := by
  cases h : (PlacedBlock.read item).toOption <;> simp [readBlocks, h]

theorem mem_readBlocks_singleton {item : Value} {b : PlacedBlock} :
    b ∈ readBlocks [item] ↔ PlacedBlock.read item = .ok b := by
  rw [readBlocks_singleton, Option.mem_toList, toOption_eq_some_iff]

theorem readBlocks_singleton_ne_nil_iff {item : Value} (h : item.items? = none) :
    readBlocks [item] ≠ [] ↔
      item.isObject = true ∧ item.HoldsText "instanceId" ∧ item.HoldsText "blockId" := by
  rw [readBlocks_singleton, ne_eq, Option.toList_eq_nil_iff, ← ne_eq, Option.ne_none_iff_exists']
  simp only [toOption_eq_some_iff, PlacedBlock.read_eq_ok_iff h, exists_and_left, exists_eq',
    and_true]

/-- What is kept of an object: a selection that is a text, and of a list what can be read. -/
structure KeptOf (v : Value) (c : Canvas) : Prop where
  selectedId : c.selectedId = (v.member? "selectedInstanceId").bind Value.string?
  blocks : ∀ items, v.member? "blocks" = some (.array items) → c.blocks = readBlocks items
  no_blocks : (∀ items, v.member? "blocks" ≠ some (.array items)) → c.blocks = []

theorem read_eq_ok_iff {v : Value} (h : v.items? = none) {c : Canvas} :
    read v = .ok c ↔ v.isObject = true ∧ ofPlain v = c := by
  have same (v : Value) : ofPlain (v.restrict ["blocks", "selectedInstanceId"]) = ofPlain v := by
    simp [ofPlain, Value.itemsAt, Value.textAt?, Value.member?_restrict]
  rw [read, shape, read_eq_ok_iff_of_flat (by decide) (by decide) same h]
  simp [Field.isRequired]

theorem keptOf_ofPlain (v : Value) : (ofPlain v).KeptOf v := by
  refine ⟨rfl, ?_, ?_⟩
  · intro items h
    simp [ofPlain, Value.itemsAt, h, Value.items?]
  · intro h
    have none : (v.member? "blocks").bind Value.items? = none := by
      refine Option.eq_none_iff_forall_ne_some.mpr fun items found => ?_
      obtain ⟨w, hw, hi⟩ := Option.bind_eq_some_iff.mp found
      exact h items (hw.trans (congrArg some (Value.items?_eq_some_iff.mp hi)))
    simp [ofPlain, Value.itemsAt, none, readBlocks]

theorem exists_read_array_iff {items : List Value} :
    (∃ c, read (.array items) = .ok c) ↔ items.length ≤ 2 := by
  rcases items with _ | ⟨a, _ | ⟨b, _ | ⟨c, rest⟩⟩⟩ <;>
    simp [read, shape, Shape.conform, Json.conformParts, bind, Except.bind, pure, Except.pure,
      Except.map]

theorem exists_read_iff {v : Value} :
    (∃ c, read v = .ok c) ↔
      v.isObject = true ∨ ∃ items, v = .array items ∧ items.length ≤ 2 := by
  cases h : v.items? with
  | none =>
    have noArray (items : List Value) : v ≠ .array items := by
      rintro rfl
      cases h
    simp only [read_eq_ok_iff h, exists_and_left, exists_eq', and_true, noArray, false_and,
      exists_false, or_false]
  | some items =>
    obtain rfl := Value.items?_eq_some_iff.mp h
    simp [exists_read_array_iff, Value.isObject]

end Canvas

end PageBuilder

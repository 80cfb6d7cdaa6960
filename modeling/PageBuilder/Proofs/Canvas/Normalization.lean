import PageBuilder.Proofs.Block.Sameness
import PageBuilder.Proofs.Canvas.Equivalence
/-! Two canvases are equivalent just if they are equal once they are normalized. The
comparison itself normalizes nothing: it walks along both lists of blocks and compares
repaired props, or stored ones where the kind is unknown. -/
namespace PageBuilder

open Json (Value)

/-- Equality of blocks, with props as data. -/
structure PlacedBlock.Agree (a b : PlacedBlock) : Prop where
  instanceId : a.instanceId = b.instanceId
  blockId : a.blockId = b.blockId
  props : a.props.Agree b.props
  notes : a.notes = b.notes
  binding : a.binding = b.binding

/-- Equality of canvases, with props as data. -/
structure Canvas.Agree (a b : Canvas) : Prop where
  blocks : List.Forall₂ PlacedBlock.Agree a.blocks b.blocks
  selectedId : a.selectedId = b.selectedId

namespace PlacedBlock

variable {a b : PlacedBlock}

theorem Agree.view_eq (h : a.Agree b) : a.view = b.view := by
  have kinds : a.kind? = b.kind? := congrArg Block.Kind.ofId? h.blockId
  have repaired (kind : Block.Kind) := Block.Props.repair_of_agree kind h.props
  simp only [view, kinds, repaired, h.props.canonical_eq, h.instanceId, h.blockId, h.notes,
    h.binding]

theorem normalize_agree (h : a.view = b.view) : a.normalize.Agree b.normalize := by
  simp only [view, View.mk.injEq] at h
  obtain ⟨blockId, instanceId, props, notes, binding⟩ := h
  have kinds : b.kind? = a.kind? := congrArg Block.Kind.ofId? blockId.symm
  cases hk : a.kind? with
  | none =>
    rw [kinds, hk] at props
    rw [normalize_of_unknown hk, normalize_of_unknown (kinds.trans hk)]
    exact ⟨instanceId, blockId, Value.agree_iff.mpr (Sum.inr.inj props), notes, binding⟩
  | some kind =>
    rw [kinds, hk] at props
    rw [normalize_of_kind hk, normalize_of_kind (kinds.trans hk)]
    exact ⟨instanceId, blockId, Sum.inl.inj props ▸ .refl _, notes, binding⟩

theorem normalize_normalize (b : PlacedBlock) : b.normalize.normalize = b.normalize := by
  cases hk : b.kind? with
  | none => rw [normalize_of_unknown hk, normalize_of_unknown hk]
  | some kind =>
    have known : b.normalize.kind? = some kind := by
      rw [normalize_of_kind hk]
      exact hk
    rw [normalize_of_kind known, normalize_of_kind hk, Block.Props.repair_repair]

end PlacedBlock

namespace Canvas

variable {a b : Canvas}

theorem Agree.view_eq (h : a.Agree b) : a.view = b.view :=
  view_eq_iff.mpr ⟨h.selectedId, h.blocks.imp fun _ _ => PlacedBlock.Agree.view_eq⟩

theorem normalize_agree (h : a.view = b.view) : a.normalize.Agree b.normalize := by
  obtain ⟨selectedId, blocks⟩ := view_eq_iff.mp h
  refine ⟨?_, selectedId⟩
  simp only [normalize, mapBlocks, List.forall₂_map_left_iff, List.forall₂_map_right_iff]
  exact blocks.imp fun _ _ => PlacedBlock.normalize_agree

theorem normalize_normalize (c : Canvas) : c.normalize.normalize = c.normalize := by
  simp [normalize, mapBlocks, PlacedBlock.normalize_normalize]

/-- The comparison is equality of normalized canvases, so an equivalence relation, and
normalizing is idempotent and unseen by it. -/
theorem equivalent_iff_normalize_agree :
    (∀ a b : Canvas, a.equivalent b = true ↔ a.normalize.Agree b.normalize) ∧
      (Equivalence fun a b : Canvas => a.equivalent b = true) ∧
      ∀ c : Canvas, c.equivalent c.normalize = true ∧ c.normalize.normalize = c.normalize := by
  refine ⟨fun a b => ?_, ⟨equivalent_refl, equivalent_symm, equivalent_trans⟩, fun c => ?_⟩
  · constructor
    · intro h
      exact normalize_agree (equivalent_iff.mp h)
    · intro h
      have same := h.view_eq
      rw [view_normalize, view_normalize] at same
      exact equivalent_iff.mpr same
  · exact ⟨equivalent_symm (normalize_equivalent c), normalize_normalize c⟩

end Canvas

end PageBuilder

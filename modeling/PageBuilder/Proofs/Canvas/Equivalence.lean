import Mathlib.Data.List.Forall2
import PageBuilder.Canvas.Normalize
import PageBuilder.Proofs.Block.Retraction
/-! The comparison of canvases is equality of what it sees of them, and
normalizing a canvas does not change that. -/
namespace PageBuilder

open Json (Value)

/-- What the comparison sees of a block. -/
structure PlacedBlock.View where
  blockId : String
  instanceId : String
  /-- Repaired if the kind is known, and otherwise in canonical form. -/
  props : Block.Props ⊕ Value
  notes : Option String
  binding : Option DataBinding

def PlacedBlock.view (b : PlacedBlock) : View where
  blockId := b.blockId
  instanceId := b.instanceId
  props :=
    match b.kind? with
    | some kind => .inl (.repair kind b.props)
    | none => .inr b.props.canonical
  notes := b.notes
  binding := b.binding

/-- What the comparison sees of a canvas. -/
def Canvas.view (c : Canvas) : Option String × List PlacedBlock.View :=
  (c.selectedId, c.blocks.map PlacedBlock.view)

theorem PlacedBlock.equivalent_iff {a b : PlacedBlock} :
    a.equivalent b = true ↔ a.view = b.view := by
  by_cases h : a.blockId = b.blockId
  · have hk : b.kind? = a.kind? := by rw [kind?, kind?, h]
    cases ha : a.kind? with
    | none => simp [equivalent, view, hk, ha, h, Value.same_iff, and_assoc]
    | some kind => simp [equivalent, view, hk, ha, h, and_assoc]
  · simp [equivalent, view, h]

namespace Canvas

theorem equivalentBlocks_iff {as bs : List PlacedBlock} :
    equivalentBlocks as bs = true ↔ as.map PlacedBlock.view = bs.map PlacedBlock.view := by
  induction as generalizing bs with
  | nil => cases bs <;> simp [equivalentBlocks]
  | cons a as ih =>
    cases bs with
    | nil => simp [equivalentBlocks]
    | cons b bs => simp [equivalentBlocks, PlacedBlock.equivalent_iff, ih]

theorem equivalent_iff {a b : Canvas} : a.equivalent b = true ↔ a.view = b.view := by
  simp [equivalent, view, equivalentBlocks_iff]

theorem view_eq_iff {a b : Canvas} :
    a.view = b.view ↔ a.selectedId = b.selectedId ∧
      List.Forall₂ (fun x y => x.view = y.view) a.blocks b.blocks := by
  rw [view, view, Prod.mk.injEq, ← List.forall₂_eq_eq_eq, List.forall₂_map_left_iff,
    List.forall₂_map_right_iff]

@[simp] theorem equivalent_refl (c : Canvas) : c.equivalent c = true :=
  equivalent_iff.mpr rfl

theorem equivalent_symm {a b : Canvas} (h : a.equivalent b = true) : b.equivalent a = true :=
  equivalent_iff.mpr (equivalent_iff.mp h).symm

theorem equivalent_trans {a b c : Canvas} (h : a.equivalent b = true)
    (h' : b.equivalent c = true) : a.equivalent c = true :=
  equivalent_iff.mpr ((equivalent_iff.mp h).trans (equivalent_iff.mp h'))

end Canvas

/-! ### Normalizing -/

theorem PlacedBlock.normalize_of_kind {b : PlacedBlock} {kind : Block.Kind}
    (h : b.kind? = some kind) :
    b.normalize = { b with props := (Block.Props.repair kind b.props).toValue } := by
  simp [normalize, props?, h]

theorem PlacedBlock.normalize_of_unknown {b : PlacedBlock} (h : b.kind? = none) :
    b.normalize = b := by
  simp [normalize, props?, h]

theorem PlacedBlock.view_normalize (b : PlacedBlock) : b.normalize.view = b.view := by
  cases h : b.kind? with
  | none => rw [normalize_of_unknown h]
  | some kind =>
    have hk : b.normalize.kind? = some kind := by rw [normalize_of_kind h]; exact h
    simp only [view, h, hk]
    rw [normalize_of_kind h, Block.Props.repair_repair]

namespace Canvas

theorem view_normalize (c : Canvas) : c.normalize.view = c.view := by
  simp [view, normalize, mapBlocks, Function.comp_def, PlacedBlock.view_normalize]

theorem normalize_equivalent (c : Canvas) : c.normalize.equivalent c = true :=
  equivalent_iff.mpr (view_normalize c)

end Canvas

end PageBuilder

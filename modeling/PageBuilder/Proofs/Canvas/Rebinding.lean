import PageBuilder.Proofs.Canvas.Equivalence
import PageBuilder.Source.Cascade
/-! Rules that change nothing but bindings. They commute with normalizing, which changes
nothing but props. -/
namespace PageBuilder

def PlacedBlock.rebind (rule : Option DataBinding → Option DataBinding) (b : PlacedBlock) :
    PlacedBlock :=
  { b with binding := rule b.binding }

def Canvas.rebind (rule : Option DataBinding → Option DataBinding) (c : Canvas) : Canvas :=
  c.mapBlocks (.rebind rule)

theorem PlacedBlock.normalize_rebind (rule : Option DataBinding → Option DataBinding)
    (b : PlacedBlock) : (b.rebind rule).normalize = b.normalize.rebind rule := by
  have kinds : (b.rebind rule).kind? = b.kind? := rfl
  cases hk : b.kind? with
  | none => rw [normalize_of_unknown hk, normalize_of_unknown (kinds.trans hk)]
  | some kind =>
    rw [normalize_of_kind hk, normalize_of_kind (kinds.trans hk)]
    rfl

theorem PlacedBlock.clearSource_eq_rebind (sourceId : String) (b : PlacedBlock) :
    b.clearSource sourceId = b.rebind (Option.filter fun link => link.sourceId ≠ sourceId) := by
  rcases b with ⟨_, _, _, _, _ | link⟩
  · rfl
  · by_cases h : link.sourceId = sourceId <;> simp [clearSource, rebind, Option.filter, h]

namespace Canvas

theorem normalize_rebind (rule : Option DataBinding → Option DataBinding) (c : Canvas) :
    (c.rebind rule).normalize = c.normalize.rebind rule := by
  simp [rebind, normalize, mapBlocks, PlacedBlock.normalize_rebind]

theorem clearSource_eq_rebind (c : Canvas) (sourceId : String) :
    c.clearSource sourceId = c.rebind (Option.filter fun link => link.sourceId ≠ sourceId) := by
  rw [clearSource, rebind, funext (PlacedBlock.clearSource_eq_rebind sourceId)]

theorem clearSample_eq_rebind (c : Canvas) (sourceId sampleId : String) :
    c.clearSample sourceId sampleId =
      c.rebind (Option.map (DataBinding.clearSample sourceId sampleId)) :=
  rfl

theorem normalize_clearSource (c : Canvas) (sourceId : String) :
    (c.clearSource sourceId).normalize = c.normalize.clearSource sourceId := by
  rw [clearSource_eq_rebind, clearSource_eq_rebind, normalize_rebind]

theorem normalize_clearSample (c : Canvas) (sourceId sampleId : String) :
    (c.clearSample sourceId sampleId).normalize = c.normalize.clearSample sourceId sampleId := by
  rw [clearSample_eq_rebind, clearSample_eq_rebind, normalize_rebind]

end Canvas

end PageBuilder

import Mathlib.Data.List.Nodup
import PageBuilder.Proofs.Canvas.Rebinding
/-! Canvases whose bindings name sources and samples that exist. They are the ones that
reconciling leaves as they are, and the rules for deletions keep them so. -/
namespace PageBuilder

/-- The binding names one of the sources and, if it pins a sample, one of that source. -/
def DataBinding.Resolves (sources : List DataSource) (b : DataBinding) : Prop :=
  ∃ s ∈ sources, s.id = b.sourceId ∧ ∀ sampleId ∈ b.sampleId, (s.sample? sampleId).isSome = true

def Canvas.Resolved (sources : List DataSource) (c : Canvas) : Prop :=
  ∀ block ∈ c.blocks, ∀ b ∈ block.binding, b.Resolves sources

instance (sources : List DataSource) (b : DataBinding) : Decidable (b.Resolves sources) :=
  inferInstanceAs (Decidable (∃ s ∈ sources, _))

instance (sources : List DataSource) (c : Canvas) : Decidable (c.Resolved sources) :=
  inferInstanceAs (Decidable (∀ block ∈ c.blocks, ∀ b ∈ block.binding, _))

/-- The other source has the same id and lacks none of the samples. -/
def DataSource.Covers (t s : DataSource) : Prop :=
  t.id = s.id ∧ ∀ sampleId, (s.sample? sampleId).isSome = true → (t.sample? sampleId).isSome = true

theorem DataSource.isSome_sample?_iff {s : DataSource} {sampleId : String} :
    (s.sample? sampleId).isSome = true ↔ ∃ x ∈ s.samples, x.id = sampleId := by
  simp [sample?, List.find?_isSome]

/-- Where ids are distinct, it does not matter from which end a source is looked up. -/
theorem DataSource.find?_reverse_eq_some_iff {sources : List DataSource}
    (distinct : (sources.map DataSource.id).Nodup) {sourceId : String} {s : DataSource} :
    (sources.reverse.find? fun t => t.id = sourceId) = some s ↔ s ∈ sources ∧ s.id = sourceId := by
  constructor
  · intro found
    exact ⟨List.mem_reverse.mp (List.mem_of_find?_eq_some found),
      by simpa using List.find?_some found⟩
  · rintro ⟨hs, rfl⟩
    have reversed : (sources.reverse.map DataSource.id).Nodup := by
      rw [List.map_reverse]
      exact List.nodup_reverse.mpr distinct
    exact Assoc.find?_key_of_mem reversed (List.mem_reverse.mpr hs)

namespace DataBinding

variable {sources left : List DataSource} {b : DataBinding}

theorem Resolves.mono (h : b.Resolves sources)
    (kept : ∀ s ∈ sources, ∃ t ∈ left, t.Covers s) : b.Resolves left := by
  obtain ⟨s, hs, same, held⟩ := h
  obtain ⟨t, ht, id_eq, samples⟩ := kept s hs
  exact ⟨t, ht, id_eq.trans same, fun sampleId pinned => samples _ (held sampleId pinned)⟩

/-- What reconciling asks of a pin. -/
theorem any_isNone_iff {s : DataSource} :
    (b.sampleId.any fun id => (s.sample? id).isNone) = false ↔
      ∀ sampleId ∈ b.sampleId, (s.sample? sampleId).isSome = true := by
  cases b.sampleId <;> simp

theorem reconcile_eq_self_iff (distinct : (sources.map DataSource.id).Nodup) :
    b.reconcile sources = some b ↔ b.Resolves sources := by
  simp only [reconcile, Option.map_eq_some_iff, DataSource.find?_reverse_eq_some_iff distinct,
    Resolves, and_assoc, ← any_isNone_iff]
  refine exists_congr fun s => and_congr_right fun _ => and_congr_right fun _ => ?_
  cases lacking : b.sampleId.any fun id => (s.sample? id).isNone with
  | false => simp
  | true =>
    -- a binding that is unpinned is not the one it was
    suffices differ : { b with sampleId := none } ≠ b by simpa using differ
    intro same
    rw [← same] at lacking
    cases lacking

end DataBinding

namespace Canvas

variable {sources left : List DataSource} {c : Canvas}

theorem resolved_rebind_iff {rule : Option DataBinding → Option DataBinding} :
    (c.rebind rule).Resolved sources ↔
      ∀ block ∈ c.blocks, ∀ b ∈ rule block.binding, b.Resolves sources :=
  List.forall_mem_map

theorem Resolved.mono (h : c.Resolved sources) (kept : ∀ s ∈ sources, ∃ t ∈ left, t.Covers s) :
    c.Resolved left :=
  fun block hblock b hb => (h block hblock b hb).mono kept

theorem Resolved.clearSource (h : c.Resolved sources) (sourceId : String) :
    (c.clearSource sourceId).Resolved (sources.filter fun s => s.id ≠ sourceId) := by
  rw [clearSource_eq_rebind, resolved_rebind_iff]
  intro block hblock b hb
  obtain ⟨bound, other⟩ := Option.filter_eq_some_iff.mp hb
  obtain ⟨s, hs, same, held⟩ := h block hblock b bound
  refine ⟨s, List.mem_filter.mpr ⟨hs, ?_⟩, same, held⟩
  rw [same]
  exact other

/-- Of the sources of an id some lose the sample, and all others stay. -/
theorem Resolved.clearSample (h : c.Resolved sources) {sourceId sampleId : String}
    (kept : ∀ s ∈ sources, s ∈ left ∨ s.id = sourceId ∧
      { s with samples := s.samples.filter fun x => x.id ≠ sampleId } ∈ left) :
    (c.clearSample sourceId sampleId).Resolved left := by
  rw [clearSample_eq_rebind, resolved_rebind_iff]
  intro block hblock b hb
  obtain ⟨link, bound, rfl⟩ := Option.map_eq_some_iff.mp hb
  obtain ⟨s, hs, same, held⟩ := h block hblock link bound
  rw [DataBinding.clearSample]
  split
  · rcases kept s hs with stays | ⟨-, stays⟩ <;>
      exact ⟨_, stays, same, fun _ pinned => nomatch pinned⟩
  · rename_i other
    rcases kept s hs with stays | ⟨named, stays⟩
    · exact ⟨s, stays, same, held⟩
    · refine ⟨_, stays, same, fun pinned hp => ?_⟩
      obtain ⟨x, hx, rfl⟩ := DataSource.isSome_sample?_iff.mp (held pinned hp)
      -- A pin on the lost sample would have been cleared.
      have differs : x.id ≠ sampleId := fun lost =>
        other ⟨same.symm.trans named, hp.trans (congrArg some lost)⟩
      refine DataSource.isSome_sample?_iff.mpr ⟨x, List.mem_filter.mpr ⟨hx, ?_⟩, rfl⟩
      simpa using differs

theorem reconcile_eq_rebind (c : Canvas) (sources : List DataSource) :
    c.reconcile sources = c.rebind fun link => link.bind (DataBinding.reconcile sources) :=
  rfl

theorem normalize_reconcile (c : Canvas) (sources : List DataSource) :
    (c.reconcile sources).normalize = c.normalize.reconcile sources := by
  rw [reconcile_eq_rebind, reconcile_eq_rebind, normalize_rebind]

theorem rebind_eq_self_iff {rule : Option DataBinding → Option DataBinding} :
    c.rebind rule = c ↔ ∀ block ∈ c.blocks, rule block.binding = block.binding := by
  have blocks : c.rebind rule = c ↔ c.blocks.map (PlacedBlock.rebind rule) = c.blocks.map id := by
    rw [List.map_id]
    exact ⟨congrArg Canvas.blocks, fun same => congrArg (Canvas.mk · c.selectedId) same⟩
  rw [blocks, List.map_inj_left]
  refine forall₂_congr fun block _ => ?_
  exact ⟨congrArg PlacedBlock.binding, fun same => congrArg (PlacedBlock.mk _ _ _ _) same⟩

/-- With one source for an id, reconciling changes nothing just if there is nothing to change. -/
theorem reconcile_eq_self_iff (distinct : (sources.map DataSource.id).Nodup) :
    c.reconcile sources = c ↔ c.Resolved sources := by
  rw [reconcile_eq_rebind, rebind_eq_self_iff, Resolved]
  refine forall₂_congr fun block _ => ?_
  cases block.binding with
  | none => simp
  | some b => simp [DataBinding.reconcile_eq_self_iff distinct]

end Canvas

end PageBuilder

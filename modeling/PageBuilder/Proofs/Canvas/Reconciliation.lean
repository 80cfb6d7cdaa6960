import PageBuilder.Proofs.Canvas.Resolved
import PageBuilder.Store.Sources
/-! Clearing bindings at every deletion comes to the same as reconciling them once, with the
sources that are left in the end. A deletion clears no more than reconciling would clear
anyway, and it leaves nothing that reconciling would have to clear. -/
namespace PageBuilder

/-- What may be deleted: a source, or a sample of a source. -/
inductive Deletion where
  | source (sourceId : String)
  | sample (sourceId sampleId : String)
  deriving DecidableEq, Repr

namespace Deletion

/-- The sources that are left. -/
def removeFrom (sources : List DataSource) : Deletion → List DataSource
  | source sourceId => sources.filter fun s => s.id ≠ sourceId
  | sample sourceId sampleId =>
    sources.map fun s => if s.id = sourceId then s.dropSample sampleId else s

/-- The canvas after the cascade of the deletion. -/
def clearFrom (canvas : Canvas) : Deletion → Canvas
  | source sourceId => canvas.clearSource sourceId
  | sample sourceId sampleId => canvas.clearSample sourceId sampleId

/-- There is nothing left of what was deleted. -/
def Gone (sources : List DataSource) : Deletion → Prop
  | source sourceId => ∀ s ∈ sources, s.id ≠ sourceId
  | sample sourceId sampleId => ∀ s ∈ sources, s.id = sourceId → s.sample? sampleId = none

end Deletion

theorem DataSource.sample?_dropSample (s : DataSource) (sampleId : String) :
    (s.dropSample sampleId).sample? sampleId = none := by
  simp [dropSample, sample?]

theorem DataSource.covers_dropSample (s : DataSource) (sampleId : String) :
    s.Covers (s.dropSample sampleId) := by
  refine ⟨rfl, fun pinned held => ?_⟩
  obtain ⟨x, hx, named⟩ := isSome_sample?_iff.mp held
  exact isSome_sample?_iff.mpr ⟨x, List.mem_of_mem_filter hx, named⟩

/-! ### One deletion -/

namespace Deletion

variable {sources left : List DataSource} {c : Canvas}

theorem covered_of_mem_removeFrom {d : Deletion} {t : DataSource} (h : t ∈ d.removeFrom sources) :
    ∃ s ∈ sources, s.Covers t := by
  cases d with
  | source sourceId => exact ⟨t, List.mem_of_mem_filter h, rfl, fun _ => id⟩
  | sample sourceId sampleId =>
    obtain ⟨s, hs, rfl⟩ := List.mem_map.mp h
    refine ⟨s, hs, ?_⟩
    split
    · exact s.covers_dropSample sampleId
    · exact ⟨rfl, fun _ => id⟩

theorem nodup_removeFrom (distinct : (sources.map DataSource.id).Nodup) (d : Deletion) :
    ((d.removeFrom sources).map DataSource.id).Nodup := by
  cases d with
  | source sourceId => exact distinct.sublist (List.filter_sublist.map _)
  | sample sourceId sampleId =>
    have ids : (removeFrom sources (sample sourceId sampleId)).map DataSource.id =
        sources.map DataSource.id := by
      unfold removeFrom
      rw [List.map_map]
      apply List.map_congr_left
      intro s _
      dsimp only [Function.comp_apply]
      split <;> rfl
    rw [ids]
    exact distinct

theorem gone_removeFrom (sources : List DataSource) (d : Deletion) :
    d.Gone (d.removeFrom sources) := by
  cases d with
  | source sourceId =>
    intro s hs
    simpa using List.of_mem_filter hs
  | sample sourceId sampleId =>
    intro t ht named
    obtain ⟨s, -, rfl⟩ := List.mem_map.mp ht
    by_cases hs : s.id = sourceId
    · rw [if_pos hs]
      exact s.sample?_dropSample sampleId
    · rw [if_neg hs] at named
      exact absurd named hs

theorem Gone.mono {d : Deletion} (h : d.Gone sources)
    (covered : ∀ t ∈ left, ∃ s ∈ sources, s.Covers t) : d.Gone left := by
  cases d with
  | source sourceId =>
    intro t ht
    obtain ⟨s, hs, same, -⟩ := covered t ht
    rw [← same]
    exact h s hs
  | sample sourceId sampleId =>
    intro t ht named
    obtain ⟨s, hs, same, samples⟩ := covered t ht
    have lost := h s hs (same.trans named)
    cases held : t.sample? sampleId with
    | none => rfl
    | some x =>
      have held := samples sampleId (by simp [held])
      simp [lost] at held

theorem resolved_clearFrom (h : c.Resolved sources) (d : Deletion) :
    (d.clearFrom c).Resolved (d.removeFrom sources) := by
  cases d with
  | source sourceId => exact h.clearSource sourceId
  | sample sourceId sampleId =>
    apply h.clearSample
    intro s hs
    have stays := List.mem_map_of_mem (f := fun s : DataSource =>
      if s.id = sourceId then s.dropSample sampleId else s) hs
    by_cases named : s.id = sourceId
    · rw [if_pos named] at stays
      exact .inr ⟨named, stays⟩
    · rw [if_neg named] at stays
      exact .inl stays

end Deletion

namespace DataBinding

variable {sources : List DataSource} {sourceId sampleId : String}

theorem reconcile_of_gone (gone : (Deletion.source sourceId).Gone sources) {b : DataBinding}
    (named : b.sourceId = sourceId) : b.reconcile sources = none := by
  have absent : (sources.reverse.find? fun s => s.id = b.sourceId) = none := by
    apply List.find?_eq_none.mpr
    intro s hs
    simpa [named] using gone s (List.mem_reverse.mp hs)
  rw [reconcile, absent, Option.map_none]

theorem reconcile_clearSample (gone : (Deletion.sample sourceId sampleId).Gone sources)
    (b : DataBinding) : (b.clearSample sourceId sampleId).reconcile sources = b.reconcile sources := by
  unfold clearSample
  split
  · rename_i pinned
    obtain ⟨named, pinned⟩ := pinned
    unfold reconcile
    dsimp only
    cases found : sources.reverse.find? fun s => s.id = b.sourceId with
    | none => rfl
    | some s =>
      have same : s.id = b.sourceId := by simpa using List.find?_some found
      have lost := gone s (List.mem_reverse.mp (List.mem_of_find?_eq_some found))
        (same.trans named)
      simp [pinned, lost]
  · rfl

end DataBinding

namespace Canvas

variable {sources : List DataSource} {c : Canvas}

theorem rebind_rebind (first second : Option DataBinding → Option DataBinding) (c : Canvas) :
    (c.rebind first).rebind second = c.rebind (second ∘ first) := by
  simp [rebind, mapBlocks, PlacedBlock.rebind, Function.comp_def]

/-- Where the deletion has been made, reconciling does not see whether its cascade has been. -/
theorem reconcile_clearFrom {d : Deletion} (gone : d.Gone sources) (c : Canvas) :
    (d.clearFrom c).reconcile sources = c.reconcile sources := by
  cases d with
  | source sourceId =>
    simp only [Deletion.clearFrom]
    rw [clearSource_eq_rebind, reconcile_eq_rebind, reconcile_eq_rebind, rebind_rebind]
    congr 1
    funext link
    cases link with
    | none => rfl
    | some b =>
      by_cases named : b.sourceId = sourceId
      · simp [named, DataBinding.reconcile_of_gone gone named]
      · simp [Option.filter, named]
  | sample sourceId sampleId =>
    simp only [Deletion.clearFrom]
    rw [clearSample_eq_rebind, reconcile_eq_rebind, reconcile_eq_rebind, rebind_rebind]
    congr 1
    funext link
    cases link with
    | none => rfl
    | some b => exact DataBinding.reconcile_clearSample gone b

/-! ### Any deletions -/

theorem Resolved.clearAll (h : c.Resolved sources) (deletions : List Deletion) :
    (deletions.foldl Deletion.clearFrom c).Resolved
      (deletions.foldl Deletion.removeFrom sources) := by
  induction deletions generalizing c sources with
  | nil => exact h
  | cons d rest ih => exact ih (Deletion.resolved_clearFrom h d)

end Canvas

namespace Deletion

variable {sources : List DataSource}

theorem nodup_removeAll (distinct : (sources.map DataSource.id).Nodup)
    (deletions : List Deletion) :
    ((deletions.foldl removeFrom sources).map DataSource.id).Nodup := by
  induction deletions generalizing sources with
  | nil => exact distinct
  | cons d rest ih => exact ih (nodup_removeFrom distinct d)

theorem Gone.removeAll {d : Deletion} (h : d.Gone sources) (deletions : List Deletion) :
    d.Gone (deletions.foldl removeFrom sources) := by
  induction deletions generalizing sources with
  | nil => exact h
  | cons e rest ih => exact ih (h.mono fun _ => covered_of_mem_removeFrom)

end Deletion

namespace Canvas

variable {sources : List DataSource} {c : Canvas}

theorem reconcile_clearAll (sources : List DataSource) (c : Canvas) (deletions : List Deletion) :
    (deletions.foldl Deletion.clearFrom c).reconcile (deletions.foldl Deletion.removeFrom sources) =
      c.reconcile (deletions.foldl Deletion.removeFrom sources) := by
  induction deletions generalizing c sources with
  | nil => rfl
  | cons d rest ih =>
    have gone := (Deletion.gone_removeFrom sources d).removeAll rest
    rw [List.foldl_cons, List.foldl_cons, ih, reconcile_clearFrom gone]

/-! ### Reconciling -/

/-- The canvas without its bindings. -/
def unbound (c : Canvas) : Canvas :=
  c.rebind fun _ => none

theorem resolved_reconcile (sources : List DataSource) (c : Canvas) :
    (c.reconcile sources).Resolved sources := by
  rw [reconcile_eq_rebind, resolved_rebind_iff]
  intro block _ b hb
  obtain ⟨link, -, kept⟩ := Option.bind_eq_some_iff.mp hb
  obtain ⟨s, found, rfl⟩ := Option.map_eq_some_iff.mp kept
  have hs := List.mem_reverse.mp (List.mem_of_find?_eq_some found)
  have same : s.id = link.sourceId := by simpa using List.find?_some found
  split
  · exact ⟨s, hs, same, fun _ pinned => nomatch pinned⟩
  · rename_i held
    exact ⟨s, hs, same, DataBinding.any_isNone_iff.mp (by simpa using held)⟩

/-- Deletion by deletion or all at once, the bindings that are left are the same. -/
theorem clearAll_eq_reconcile :
    (∀ (sources : List DataSource) (c : Canvas), (sources.map DataSource.id).Nodup →
      c.Resolved sources → ∀ deletions : List Deletion,
        deletions.foldl Deletion.clearFrom c =
          c.reconcile (deletions.foldl Deletion.removeFrom sources)) ∧
      ∀ (sources : List DataSource) (c : Canvas), (sources.map DataSource.id).Nodup →
        (c.reconcile sources).reconcile sources = c.reconcile sources ∧
          (c.reconcile sources = c ↔ c.Resolved sources) ∧
          (c.reconcile sources).unbound = c.unbound := by
  constructor
  · intro sources c distinct resolved deletions
    have settled := (reconcile_eq_self_iff (Deletion.nodup_removeAll distinct deletions)).mpr
      (resolved.clearAll deletions)
    rw [← settled, reconcile_clearAll]
  · intro sources c distinct
    refine ⟨?_, reconcile_eq_self_iff distinct, ?_⟩
    · exact (reconcile_eq_self_iff distinct).mpr (resolved_reconcile sources c)
    · rw [unbound, reconcile_eq_rebind, rebind_rebind]
      rfl

/-- Both sources have a sample of the id that one of them loses, and the other one goes after
it has lost another sample. -/
theorem clearAll_eq_reconcile_shared_id :
    let sample (id : String) : DataSample := ⟨id, "Sample", .null⟩
    let source (id : String) (samples : List DataSample) : DataSource :=
      ⟨id, "Source", .rest, none, none, none, none, .null, samples⟩
    let sources := [source "feed" [sample "first", sample "second"],
      source "news" [sample "first", sample "second"]]
    let placed (instanceId : String) (binding : Option DataBinding) : PlacedBlock :=
      ⟨instanceId, "hero", .null, none, binding⟩
    let mapped : Option (List FieldMapping) := some [⟨"name", "title"⟩]
    let canvas : Canvas := ⟨[placed "a" (some ⟨"feed", some "first", mapped⟩),
      placed "b" (some ⟨"news", some "first", none⟩),
      placed "c" (some ⟨"feed", some "second", none⟩),
      placed "d" (some ⟨"feed", none, none⟩), placed "e" none], some "b"⟩
    let cleared : Canvas := ⟨[placed "a" (some ⟨"feed", none, mapped⟩), placed "b" none,
      placed "c" (some ⟨"feed", some "second", none⟩),
      placed "d" (some ⟨"feed", none, none⟩), placed "e" none], some "b"⟩
    let deletions : List Deletion := [.sample "feed" "first", .sample "news" "second",
      .source "news"]
    (sources.map DataSource.id).Nodup ∧ canvas.Resolved sources ∧
      deletions.foldl Deletion.removeFrom sources = [source "feed" [sample "second"]] ∧
      deletions.foldl Deletion.clearFrom canvas = cleared ∧
      canvas.reconcile [source "feed" [sample "second"]] = cleared ∧
      cleared.reconcile [source "feed" [sample "second"]] = cleared := by
  intro sample source sources placed mapped canvas cleared deletions
  have distinct : (sources.map DataSource.id).Nodup := by decide
  have resolved : canvas.Resolved sources := by decide
  have left : deletions.foldl Deletion.removeFrom sources = [source "feed" [sample "second"]] := by
    decide
  have stepwise : deletions.foldl Deletion.clearFrom canvas = cleared := by decide
  have batch := clearAll_eq_reconcile.1 sources canvas distinct resolved deletions
  rw [stepwise, left] at batch
  refine ⟨distinct, resolved, left, stepwise, batch.symm, ?_⟩
  have again := (clearAll_eq_reconcile.2 [source "feed" [sample "second"]] canvas (by decide)).1
  rw [← batch] at again
  exact again

end Canvas

end PageBuilder

import Mathlib.Data.List.Pairwise
import PageBuilder.Proofs.Store.Requests
/-! Ids of sources and samples. While fresh ids are drawn, no two records of a store have one
in common, so an id stands for one source, or for samples of one source, over all projects. -/
namespace PageBuilder

namespace DataSource

/-- The id of a source and those of its samples. -/
def ids (s : DataSource) : List String :=
  s.id :: s.samples.map DataSample.id

def Apart (s t : DataSource) : Prop :=
  ∀ id ∈ s.ids, id ∉ t.ids

theorem Apart.symm {s t : DataSource} (h : s.Apart t) : t.Apart s :=
  fun id ht hs => h id hs ht

theorem mem_ids_of_sample {s : DataSource} {sampleId : String}
    (held : (s.sample? sampleId).isSome = true) : sampleId ∈ s.ids := by
  obtain ⟨x, hx, same⟩ := List.find?_isSome.mp held
  have same : x.id = sampleId := by simpa using same
  exact List.mem_cons_of_mem _ (List.mem_map.mpr ⟨x, hx, same⟩)

theorem mem_ids_of_upsert {sample : SampleUpsert} {drawn : String} {s : DataSource} {id : String}
    (h : id ∈ (upsert sample drawn s).2.ids) : id ∈ s.ids ∨ id = drawn := by
  rcases List.mem_cons.mp h with own | held
  · refine .inl (List.mem_cons.mpr (.inl ?_))
    rw [own, upsert]
    split <;> rfl
  · obtain ⟨x, hx, rfl⟩ := List.mem_map.mp held
    rw [upsert] at hx
    split at hx
    · rename_i found named
      have mem : found ∈ s.samples := by
        obtain ⟨sampleId, -, looked⟩ := Option.bind_eq_some_iff.mp named
        exact List.mem_of_find?_eq_some looked
      rcases mem_modifyFirst hx with old | ⟨_, -, rfl⟩
      · exact .inl (List.mem_cons_of_mem _ (List.mem_map_of_mem old))
      · exact .inl (List.mem_cons_of_mem _ (List.mem_map.mpr ⟨found, mem, rfl⟩))
    · rcases List.mem_append.mp hx with old | new
      · exact .inl (List.mem_cons_of_mem _ (List.mem_map_of_mem old))
      · rw [List.mem_singleton.mp new]
        exact .inr rfl

theorem mem_ids_of_dropSample {sampleId : String} {s : DataSource} {id : String}
    (h : id ∈ (s.dropSample sampleId).ids) : id ∈ s.ids := by
  rcases List.mem_cons.mp h with own | held
  · exact List.mem_cons.mpr (.inl own)
  · obtain ⟨x, hx, rfl⟩ := List.mem_map.mp held
    exact List.mem_cons_of_mem _ (List.mem_map_of_mem (List.mem_of_mem_filter hx))

end DataSource

namespace Store

/-- Every id that stands for a source or a sample. -/
def ids (store : Store) : List String :=
  store.sources.flatMap fun r => r.source.ids

/-- The ids that an operation draws. -/
def Operation.drawn : Operation → List String
  | .create _ input draw => (input.toSource draw).ids
  | .upsertSample _ _ _ drawn => [drawn]
  | _ => []

/-- Ids that are drawn are not in use. -/
def Fresh (store : Store) (_ : String) : Request → Prop
  | .change operation => ∀ id ∈ operation.drawn, id ∉ store.ids
  | _ => True

instance (store : Store) (projectId : String) (request : Request) :
    Decidable (Fresh store projectId request) :=
  match request with
  | .load _ | .list _ => .isTrue trivial
  | .change operation => inferInstanceAs (Decidable (∀ id ∈ operation.drawn, id ∉ store.ids))

/-- No two records have an id in common. -/
def Distinct (records : List SourceRecord) : Prop :=
  records.Pairwise fun r t => r.source.Apart t.source

theorem Distinct.modifyFirst {records : List SourceRecord} {test : SourceRecord → Bool}
    {change : DataSource → DataSource} {drawn : List String} (h : Distinct records)
    (unused : ∀ id ∈ drawn, ∀ r ∈ records, id ∉ r.source.ids)
    (grows : ∀ s, ∀ id ∈ (change s).ids, id ∈ s.ids ∨ id ∈ drawn) :
    Distinct (modifyFirst test (SourceRecord.mapSource change) records) := by
  induction records with
  | nil => exact h
  | cons r rest ih =>
    obtain ⟨first, others⟩ := List.pairwise_cons.mp h
    rw [PageBuilder.modifyFirst]
    split
    · -- the first record is the one that changes, and may have got what was drawn
      refine List.pairwise_cons.mpr ⟨fun t ht id changed => ?_, others⟩
      rcases grows r.source id changed with old | new
      · exact first t ht id old
      · exact unused id new t (List.mem_cons_of_mem _ ht)
    · refine List.pairwise_cons.mpr ⟨fun t ht id own => ?_, ?_⟩
      · -- the first record stays, and a later one may have got what was drawn
        rcases mem_modifyFirst ht with old | ⟨t, old, rfl⟩
        · exact first t old id own
        · intro changed
          rcases grows t.source id changed with kept | new
          · exact first t old id own kept
          · exact unused id new r (List.mem_cons_self ..) own
      · exact ih others fun id hid t ht => unused id hid t (List.mem_cons_of_mem _ ht)

/-- Whatever a change of a project succeeds in, no two records come to share an id. -/
theorem Distinct.records {projectId : String} {records : List SourceRecord}
    {operation : Operation} (h : Distinct records)
    (unused : ∀ id ∈ operation.drawn, ∀ r ∈ records, id ∉ r.source.ids) :
    Distinct (operation.records projectId records) := by
  cases operation with
  | register owner => exact h
  | putRaw canvas => exact h
  | save caller canvas => exact h
  | create caller input draw =>
    refine List.pairwise_append.mpr ⟨h, List.pairwise_singleton _ _, fun r hr t ht => ?_⟩
    rw [List.mem_singleton.mp ht]
    exact fun id own drawn => unused id drawn r hr own
  | update caller sourceId patch => exact h.modifyFirst unused fun _ _ => .inl
  | deleteSource caller sourceId => exact h.filter _
  | upsertSample caller sourceId sample drawn =>
    refine h.modifyFirst unused fun s id changed => ?_
    exact (DataSource.mem_ids_of_upsert changed).imp_right List.mem_singleton.mpr
  | deleteSample caller sampleId =>
    exact h.modifyFirst unused fun _ _ changed => .inl (DataSource.mem_ids_of_dropSample changed)

theorem Distinct.step {store : Store} {projectId : String} {request : Request}
    (fresh : store.Fresh projectId request) (h : Distinct store.sources) :
    Distinct (store.step projectId request).2.sources := by
  rcases store.snd_step_eq_or projectId request with same | ⟨operation, rfl, performed⟩
  · rw [same]
    exact h
  · rw [(migrated_records_of_perform performed).2]
    refine h.records fun id drawn r hr own => ?_
    exact fresh id drawn (List.mem_flatMap.mpr ⟨r, hr, own⟩)

theorem Distinct.run {store : Store} {calls : List (String × Request)}
    (h : Distinct store.sources) (fresh : store.Throughout Fresh calls) :
    Distinct (store.run calls).sources :=
  fresh.keeps Distinct.step h

theorem distinct_empty (migrated : Bool) : Distinct (empty migrated).sources :=
  List.Pairwise.nil

/-! ### What distinct ids say of the projects -/

variable {store : Store}

/-- Two projects share no source and no sample. -/
theorem Distinct.apart_of_ne {projectId other : String} (h : Distinct store.sources)
    (different : projectId ≠ other) {s t : DataSource} (own : s ∈ store.sourcesOf projectId)
    (foreign : t ∈ store.sourcesOf other) : s.Apart t := by
  obtain ⟨r, hr, rfl⟩ := List.mem_map.mp own
  obtain ⟨u, hu, rfl⟩ := List.mem_map.mp foreign
  obtain ⟨hr, ofProject⟩ := List.mem_filter.mp hr
  obtain ⟨hu, ofOther⟩ := List.mem_filter.mp hu
  have ofProject : r.projectId = projectId := by simpa using ofProject
  have ofOther : u.projectId = other := by simpa using ofOther
  have : Std.Symm fun r t : SourceRecord => r.source.Apart t.source := ⟨fun _ _ apart => apart.symm⟩
  refine List.Pairwise.forall h hr hu ?_
  rintro rfl
  exact different (ofProject.symm.trans ofOther)

/-- Within a project an id stands for one source. -/
theorem Distinct.nodup_sourcesOf (h : Distinct store.sources) (projectId : String) :
    ((store.sourcesOf projectId).map DataSource.id).Nodup := by
  unfold sourcesOf
  rw [List.Nodup, List.pairwise_map, List.pairwise_map]
  refine (h.filter _).imp fun {r t} apart same => ?_
  exact apart _ (List.mem_cons_self ..) (List.mem_cons.mpr (.inl same))

end Store

end PageBuilder

import PageBuilder.Proofs.Canvas.Rebinding
import PageBuilder.Proofs.Store.Operations
import PageBuilder.Proofs.Store.Records
/-! What a deletion comes to for those who call the store. Whatever value is stored as the
canvas of the project, the canvas that is loaded loses the bindings to what was deleted;
the list of sources loses the source or the sample; other projects do not change. -/
namespace PageBuilder.Store

open Json (Value)

variable {store store' : Store} {owner projectId : String}

/-! ### Access -/

theorem assertAccess_eq_ok_iff {u : Unit} :
    store.assertAccess owner projectId = .ok u ↔ store.owns owner projectId = true := by
  unfold assertAccess
  split <;> simp_all

/-- What the owner of a project loads. -/
def loaded? (store : Store) (projectId : String) : Option Canvas :=
  if store.migrated then (store.stored? projectId).map Canvas.normalize else none

theorem load_of_owns (owns : store.owns owner projectId = true) :
    store.load owner projectId = .ok (store.loaded? projectId) :=
  load_eq_ok_iff.mpr ⟨owns, rfl⟩

theorem list_eq_ok_iff {result : List DataSource} :
    store.list owner projectId = .ok result ↔
      store.owns owner projectId = true ∧ store.sourcesOf projectId = result := by
  simp only [list, bind_eq_ok_iff, assertAccess_eq_ok_iff, pure, Except.pure, Except.ok.injEq,
    exists_const]

theorem list_of_owns (owns : store.owns owner projectId = true) :
    store.list owner projectId = .ok (store.sourcesOf projectId) :=
  list_eq_ok_iff.mpr ⟨owns, rfl⟩

theorem list_congr (project : store'.project? projectId = store.project? projectId)
    (sources : store'.sourcesOf projectId = store.sourcesOf projectId) (caller : String) :
    store'.list caller projectId = store.list caller projectId := by
  unfold list assertAccess owns
  rw [project, sources]

/-! ### The cascade -/

section

variable (store : Store) (projectId : String) (rule : Canvas → Canvas)

@[simp] theorem sources_cascade : (store.cascade projectId rule).sources = store.sources := by
  unfold cascade
  split
  · split <;> rfl
  · rfl

theorem owns_cascade (owner : String) :
    (store.cascade projectId rule).owns owner projectId = store.owns owner projectId := by
  unfold cascade
  split
  · split
    · exact owns_putRaw ..
    · rfl
  · rfl

variable {store}

theorem stored?_cascade (migrated : store.migrated = true) :
    (store.cascade projectId rule).stored? projectId = (store.stored? projectId).map rule := by
  cases h : store.stored? projectId with
  | none =>
    have skipped : store.cascade projectId rule = store := by
      unfold stored? at h
      simp [cascade, migrated, h]
    rw [skipped, h]
    rfl
  | some canvas =>
    have written : store.cascade projectId rule =
        store.putRaw projectId (rule canvas).toValue := by
      unfold stored? at h
      simp [cascade, migrated, h]
    have known : (store.project? projectId).isSome = true := by
      cases hp : store.project? projectId with
      | none => simp [stored?, hp] at h
      | some p => rfl
    rw [written, stored?_putRaw known]
    rfl

/-- A rule that commutes with normalizing shows in what is loaded. -/
theorem loaded?_cascade {rule : Canvas → Canvas}
    (commutes : ∀ c : Canvas, (rule c).normalize = rule c.normalize) :
    (store.cascade projectId rule).loaded? projectId = (store.loaded? projectId).map rule := by
  rw [loaded?, loaded?, migrated_cascade]
  split
  · rename_i migrated
    rw [stored?_cascade projectId rule migrated, Option.map_map, Option.map_map]
    congr 1
    exact funext commutes
  · rfl

end

/-! ### Deletions that succeed -/

theorem source?_eq (store : Store) (projectId sourceId : String) :
    store.source? projectId sourceId =
      (store.sourcesOf projectId).find? fun s => s.id = sourceId :=
  find?_sourcesIn (SourceRecord.asks_isOf projectId sourceId) store.sources

theorem discard_findSource_eq_ok_iff {sourceId : String} {u : Unit} :
    discard (store.findSource projectId sourceId) = .ok u ↔
      (store.source? projectId sourceId).isSome = true := by
  unfold findSource
  cases store.source? projectId sourceId with
  | none => exact ⟨nofun, nofun⟩
  | some source => exact ⟨fun _ => rfl, fun _ => rfl⟩

theorem deleteSource_eq_ok_iff {sourceId : String} :
    store.deleteSource owner projectId sourceId = .ok store' ↔
      store.owns owner projectId = true ∧ (store.source? projectId sourceId).isSome = true ∧
        ({ store with
            sources := store.sources.filter fun r => !r.isOf projectId sourceId }.cascade
          projectId fun canvas => canvas.clearSource sourceId) = store' := by
  simp only [deleteSource, bind_eq_ok_iff, assertAccess_eq_ok_iff, discard_findSource_eq_ok_iff]
  constructor
  · rintro ⟨-, owns, -, found, h⟩
    exact ⟨owns, found, Except.ok.inj h⟩
  · rintro ⟨owns, found, h⟩
    exact ⟨(), owns, (), found, congrArg Except.ok h⟩

theorem deleteSample_eq_ok_iff {sampleId : String} :
    store.deleteSample owner projectId sampleId = .ok store' ↔
      store.owns owner projectId = true ∧
        ∃ record, store.sources.find? (SourceRecord.holds projectId sampleId) = some record ∧
          ({ store with
              sources := modifyFirst (SourceRecord.holds projectId sampleId)
                (SourceRecord.mapSource (DataSource.dropSample sampleId)) store.sources }.cascade
            projectId fun canvas => canvas.clearSample record.source.id sampleId) = store' := by
  simp only [deleteSample, bind_eq_ok_iff, assertAccess_eq_ok_iff]
  constructor
  · rintro ⟨-, owns, h⟩
    split at h
    · cases h
    · rename_i record found
      exact ⟨owns, record, found, Except.ok.inj h⟩
  · rintro ⟨owns, record, found, h⟩
    refine ⟨(), owns, ?_⟩
    rw [found]
    exact congrArg Except.ok h

/-! ### What callers see -/

/-- What callers see after a deletion in a project: the canvas that its owner loads went
through `rule`, its sources are those left, and other projects are as before. -/
structure Deleted (owner projectId : String) (rule : Canvas → Canvas) (left : List DataSource)
    (store store' : Store) : Prop where
  load : store'.load owner projectId = (store.load owner projectId).map (Option.map rule)
  list : store'.list owner projectId = .ok left
  elsewhere : ∀ other ≠ projectId, ∀ caller, store'.load caller other = store.load caller other ∧
    store'.list caller other = store.list caller other

/-- Other records are left, and a cascade runs over the canvas. -/
theorem deleted_cascade {records : List SourceRecord} {rule : Canvas → Canvas}
    (owns : store.owns owner projectId = true)
    (commutes : ∀ c : Canvas, (rule c).normalize = rule c.normalize)
    (elsewhere : ∀ other ≠ projectId, sourcesIn other records = store.sourcesOf other) :
    Deleted owner projectId rule (sourcesIn projectId records) store
      ({ store with sources := records }.cascade projectId rule) := by
  let changed : Store := { store with sources := records }
  have owns' : (changed.cascade projectId rule).owns owner projectId = true :=
    (owns_cascade changed projectId rule owner).trans owns
  have sources (other : String) :
      (changed.cascade projectId rule).sourcesOf other = sourcesIn other records := by
    rw [sourcesOf_eq, sources_cascade]
  constructor
  · rw [load_of_owns owns', load_of_owns owns, loaded?_cascade projectId commutes]
    rfl
  · rw [list_of_owns owns', sources]
  · intro other different caller
    have project : (changed.cascade projectId rule).project? other = store.project? other :=
      project?_cascade_of_ne different.symm rule
    have migrated := migrated_cascade changed projectId rule
    exact ⟨load_congr ⟨migrated, project⟩ caller,
      list_congr project ((sources other).trans (elsewhere other different)) caller⟩

theorem deleted_of_deleteSource {sourceId : String}
    (h : store.deleteSource owner projectId sourceId = .ok store') :
    Deleted owner projectId (fun canvas => canvas.clearSource sourceId)
      ((store.sourcesOf projectId).filter fun s => s.id ≠ sourceId) store store' := by
  obtain ⟨owns, -, rfl⟩ := deleteSource_eq_ok_iff.mp h
  have asks := SourceRecord.asks_isOf projectId sourceId
  have left : sourcesIn projectId (store.sources.filter fun r => !r.isOf projectId sourceId) =
      (store.sourcesOf projectId).filter fun s => s.id ≠ sourceId := by
    rw [sourcesIn_remove asks, sourcesOf_eq]
    simp
  rw [← left]
  refine deleted_cascade owns (fun c => c.normalize_clearSource sourceId) ?_
  intro other different
  exact sourcesIn_remove_of_ne asks different.symm store.sources

/-- The first source that holds the sample loses it. -/
theorem deleted_of_deleteSample {sampleId : String}
    (h : store.deleteSample owner projectId sampleId = .ok store') :
    ∃ earlier holder later, store.sourcesOf projectId = earlier ++ holder :: later ∧
      (∀ s ∈ earlier, s.sample? sampleId = none) ∧ (holder.sample? sampleId).isSome = true ∧
      Deleted owner projectId (fun canvas => canvas.clearSample holder.id sampleId)
        (earlier ++ holder.dropSample sampleId :: later) store store' := by
  obtain ⟨owns, record, found, rfl⟩ := deleteSample_eq_ok_iff.mp h
  have asks := SourceRecord.asks_holds projectId sampleId
  have first : (store.sourcesOf projectId).find? (fun s => (s.sample? sampleId).isSome) =
      some record.source := by
    rw [sourcesOf_eq, ← find?_sourcesIn asks, found, Option.map_some]
  obtain ⟨held, earlier, later, split, passed⟩ := List.find?_eq_some_iff_append.mp first
  have passed : ∀ s ∈ earlier, (s.sample? sampleId).isSome = false := by
    simpa using passed
  refine ⟨earlier, record.source, later, split, by simpa using passed, held, ?_⟩
  have left : sourcesIn projectId (modifyFirst (SourceRecord.holds projectId sampleId)
      (SourceRecord.mapSource (DataSource.dropSample sampleId)) store.sources) =
      earlier ++ record.source.dropSample sampleId :: later := by
    rw [sourcesIn_modifyFirst asks, ← sourcesOf_eq, split, modifyFirst_append passed held]
  rw [← left]
  refine deleted_cascade owns (fun c => c.normalize_clearSample record.source.id sampleId) ?_
  intro other different
  exact sourcesIn_modifyFirst_of_ne asks different.symm _ store.sources

theorem exists_deleteSource_iff {sourceId : String} :
    (∃ store', store.deleteSource owner projectId sourceId = .ok store') ↔
      ∃ sources, store.list owner projectId = .ok sources ∧ ∃ s ∈ sources, s.id = sourceId := by
  have held : (store.source? projectId sourceId).isSome = true ↔
      ∃ s ∈ store.sourcesOf projectId, s.id = sourceId := by
    simp [source?_eq, List.find?_isSome]
  simp only [deleteSource_eq_ok_iff, list_eq_ok_iff, held]
  constructor
  · rintro ⟨store', owns, found, -⟩
    exact ⟨_, ⟨owns, rfl⟩, found⟩
  · rintro ⟨sources, ⟨owns, rfl⟩, found⟩
    exact ⟨_, owns, found, rfl⟩

theorem exists_deleteSample_iff {sampleId : String} :
    (∃ store', store.deleteSample owner projectId sampleId = .ok store') ↔
      ∃ sources, store.list owner projectId = .ok sources ∧
        ∃ s ∈ sources, (s.sample? sampleId).isSome = true := by
  have held : (∃ record,
      store.sources.find? (SourceRecord.holds projectId sampleId) = some record) ↔
      ∃ s ∈ store.sourcesOf projectId, (s.sample? sampleId).isSome = true := by
    have same := find?_sourcesIn (SourceRecord.asks_holds projectId sampleId) store.sources
    rw [← Option.isSome_iff_exists, ← Option.isSome_map (f := SourceRecord.source), same,
      List.find?_isSome]
    rfl
  simp only [deleteSample_eq_ok_iff, list_eq_ok_iff]
  constructor
  · rintro ⟨store', owns, record, found, -⟩
    exact ⟨_, ⟨owns, rfl⟩, held.mp ⟨record, found⟩⟩
  · rintro ⟨sources, ⟨owns, rfl⟩, found⟩
    obtain ⟨record, found⟩ := held.mpr found
    exact ⟨_, owns, record, found, rfl⟩

/-- A deletion succeeds for the owner of the project if there is what it deletes, and then
callers see just that gone. The stored value does not matter, nor does it whether the store
is migrated. -/
theorem deletions_exact (store : Store) (owner projectId : String) :
    (∀ sourceId,
      ((∃ store', store.deleteSource owner projectId sourceId = .ok store') ↔
        ∃ sources, store.list owner projectId = .ok sources ∧ ∃ s ∈ sources, s.id = sourceId) ∧
      ∀ store', store.deleteSource owner projectId sourceId = .ok store' →
        ∃ sources, store.list owner projectId = .ok sources ∧
          Deleted owner projectId (fun canvas => canvas.clearSource sourceId)
            (sources.filter fun s => s.id ≠ sourceId) store store') ∧
    ∀ sampleId,
      ((∃ store', store.deleteSample owner projectId sampleId = .ok store') ↔
        ∃ sources, store.list owner projectId = .ok sources ∧
          ∃ s ∈ sources, (s.sample? sampleId).isSome = true) ∧
      ∀ store', store.deleteSample owner projectId sampleId = .ok store' →
        ∃ earlier holder later,
          store.list owner projectId = .ok (earlier ++ holder :: later) ∧
          (∀ s ∈ earlier, s.sample? sampleId = none) ∧
          (holder.sample? sampleId).isSome = true ∧
          Deleted owner projectId (fun canvas => canvas.clearSample holder.id sampleId)
            (earlier ++
              { holder with samples := holder.samples.filter fun s => s.id ≠ sampleId } :: later)
            store store' := by
  refine ⟨fun sourceId => ⟨exists_deleteSource_iff, ?_⟩,
    fun sampleId => ⟨exists_deleteSample_iff, ?_⟩⟩
  · intro store' h
    obtain ⟨owns, -, -⟩ := deleteSource_eq_ok_iff.mp h
    exact ⟨_, list_of_owns owns, deleted_of_deleteSource h⟩
  · intro store' h
    obtain ⟨owns, -, -⟩ := deleteSample_eq_ok_iff.mp h
    obtain ⟨earlier, holder, later, split, passed, held, deleted⟩ := deleted_of_deleteSample h
    refine ⟨earlier, holder, later, ?_, passed, held, ?_⟩
    · rw [list_of_owns owns, split]
    · simpa [DataSource.dropSample] using deleted

/-- The stored value is an array in place of an object, with an item that is no block and a
block whose props and notes are of other types. Another project has a source of the same id
and its own value, which cannot be read. -/
theorem deletions_exact_odd_value :
    let first : DataSample := ⟨"first", "First", .null⟩
    let second : DataSample := ⟨"second", "Second", .null⟩
    let feed (samples : List DataSample) : DataSource :=
      ⟨"feed", "Feed", .rest, none, none, none, none, .null, samples⟩
    let block : Value := .object [("dataBinding", .array [.string "feed", .string "first"]),
      ("blockId", .string "map"), ("instanceId", .string "x"), ("notes", .bool true),
      ("props", .string "raw")]
    let store : Store := ⟨[
        ("site", ⟨"ada", some (.array [.array [.null, block], .bool false])⟩),
        ("shop", ⟨"bob", some (.string "lost")⟩)],
      [⟨"shop", feed [first]⟩, ⟨"site", feed [first, second]⟩], true⟩
    let placed (binding : Option DataBinding) : Canvas :=
      ⟨[⟨"x", "map", .string "raw", none, binding⟩], none⟩
    let bare := (store.deleteSource "ada" "site" "feed").toOption.getD store
    let unpinned := (store.deleteSample "ada" "site" "first").toOption.getD store
    store.load "ada" "site" = .ok (some (placed (some ⟨"feed", some "first", none⟩))) ∧
      store.deleteSource "ada" "site" "feed" = .ok bare ∧
      bare.load "ada" "site" = .ok (some (placed none)) ∧
      bare.list "ada" "site" = .ok [] ∧
      bare.list "bob" "shop" = .ok [feed [first]] ∧
      store.deleteSample "ada" "site" "first" = .ok unpinned ∧
      unpinned.load "ada" "site" = .ok (some (placed (some ⟨"feed", none, none⟩))) ∧
      unpinned.list "ada" "site" = .ok [feed [second]] := by
  intro first second feed block store placed bare unpinned
  have loaded : store.load "ada" "site" =
      .ok (some (placed (some ⟨"feed", some "first", none⟩))) := by rfl
  have lost : store.deleteSource "ada" "site" "feed" = .ok bare := by rfl
  have released : store.deleteSample "ada" "site" "first" = .ok unpinned := by rfl
  have law := deletions_exact store "ada" "site"
  obtain ⟨sources, listed, gone⟩ := (law.1 "feed").2 bare lost
  obtain rfl : [feed [first, second]] = sources := Except.ok.inj listed
  obtain ⟨earlier, holder, later, listed, -, -, released'⟩ :=
    (law.2 "first").2 unpinned released
  have alone : [] ++ feed [first, second] :: [] = earlier ++ holder :: later :=
    Except.ok.inj listed
  obtain ⟨rfl, rfl, rfl⟩ : earlier = [] ∧ holder = feed [first, second] ∧ later = [] := by
    cases earlier <;> simp_all
  refine ⟨loaded, lost, ?_, gone.list, ?_, released, ?_, released'.list⟩
  · rw [gone.load, loaded]
    rfl
  · exact (gone.elsewhere "shop" (by decide) "bob").2
  · rw [released'.load, loaded]
    rfl

end PageBuilder.Store

import PageBuilder.Proofs.Store.Deletion
/-! Requests with their answers, and runs of them. An operation asks first whether its caller
owns the project; for an owner its outcome is given here in full, by what is at fault with
the request and else by what it changes. -/
namespace PageBuilder

theorem map_map {ε α β γ : Type} (x : Except ε α) (f : α → β) (g : β → γ) :
    (x.map f).map g = x.map fun a => g (f a) := by
  cases x <;> rfl

/-- The source that is created from an input. -/
def NewDataSource.toSource (input : NewDataSource) (draw : Nat → String) : DataSource :=
  { input with
    id := draw 0
    samples := input.samples.mapIdx fun i s => ⟨draw (i + 1), s.label, s.payload⟩ }

theorem newSamples_eq_mapIdx (draw : Nat → String) (index : Nat) (samples : List NewSample) :
    newSamples draw index samples =
      samples.mapIdx fun i s => ⟨draw (i + index), s.label, s.payload⟩ := by
  induction samples generalizing index with
  | nil => rfl
  | cons s rest ih =>
    rw [newSamples, ih, List.mapIdx_cons]
    simp only [Nat.zero_add, Nat.add_assoc, Nat.add_comm 1 index]

namespace Store

open Json (Value)

/-! ### Requests -/

inductive Request where
  | load (caller : String)
  | list (caller : String)
  | change (operation : Operation)

inductive Answer where
  | done
  | canvas (canvas : Option Canvas)
  | sources (sources : List DataSource)
  | source (source : DataSource)
  | sample (sample : DataSample)
  deriving DecidableEq, Repr

/-- Who asks. A project is registered, and a raw canvas put, in nobody's name. -/
def Operation.caller? : Operation → Option String
  | .register _ | .putRaw _ => none
  | .save caller _ | .create caller _ _ | .update caller _ _ | .deleteSource caller _
  | .upsertSample caller _ _ _ | .deleteSample caller _ => some caller

def Request.caller? : Request → Option String
  | .load caller | .list caller => some caller
  | .change operation => operation.caller?

def respond (store : Store) (projectId : String) : Request → Except StoreError (Answer × Store)
  | .load caller => (store.load caller projectId).map fun canvas => (.canvas canvas, store)
  | .list caller => (store.list caller projectId).map fun sources => (.sources sources, store)
  | .change (.register owner) => .ok (.done, store.register owner projectId)
  | .change (.putRaw canvas) => .ok (.done, store.putRaw projectId canvas)
  | .change (.save caller canvas) => (store.save caller projectId canvas).map (.done, ·)
  | .change (.create caller input draw) =>
    (store.create caller projectId input draw).map fun r => (.source r.1, r.2)
  | .change (.update caller sourceId patch) =>
    (store.update caller projectId sourceId patch).map fun r => (.source r.1, r.2)
  | .change (.deleteSource caller sourceId) =>
    (store.deleteSource caller projectId sourceId).map (.done, ·)
  | .change (.upsertSample caller sourceId sample drawn) =>
    (store.upsertSample caller projectId sourceId sample drawn).map fun r => (.sample r.1, r.2)
  | .change (.deleteSample caller sampleId) =>
    (store.deleteSample caller projectId sampleId).map (.done, ·)

/-- A request that is refused leaves the store as it is. -/
def step (store : Store) (projectId : String) (request : Request) :
    Except StoreError Answer × Store :=
  match store.respond projectId request with
  | .ok (answer, store') => (.ok answer, store')
  | .error e => (.error e, store)

/-! ### What is at fault with a request -/

def emptyText (what : String) : StoreError :=
  .validation (what ++ " must not be empty")

theorem requireSolid_eq (what text : String) :
    requireSolid what text = if Text.isBlank text then .error (emptyText what) else .ok () :=
  rfl

theorem forM_requireSolid (what : String) (samples : List NewSample) :
    (samples.forM fun s => requireSolid what s.label) =
      if samples.any fun s => Text.isBlank s.label then .error (emptyText what) else .ok () := by
  rw [List.forM_eq_forM]
  induction samples with
  | nil => rfl
  | cons s rest ih =>
    rw [List.forM_cons, ih, requireSolid_eq, List.any_cons]
    cases Text.isBlank s.label <;> rfl

/-! ### Outcomes for an owner -/

section

variable {store : Store} {caller projectId : String}

theorem assertAccess_of_owns (owns : store.owns caller projectId = true) :
    store.assertAccess caller projectId = .ok () :=
  assertAccess_eq_ok_iff.mpr owns

theorem save_of_owns (owns : store.owns caller projectId = true) (canvas : Canvas) :
    store.save caller projectId canvas =
      if store.migrated then .ok (store.putRaw projectId canvas.toValue)
      else .error .schemaUnsupported := by
  rw [save, assertAccess_of_owns owns]
  rfl

theorem create_of_owns (owns : store.owns caller projectId = true) (input : NewDataSource)
    (draw : Nat → String) :
    store.create caller projectId input draw =
      if Text.isBlank input.name then .error (emptyText "Data source name")
      else if input.samples.any fun s => Text.isBlank s.label then .error (emptyText "Sample label")
      else .ok (input.toSource draw,
        { store with sources := store.sources ++ [⟨projectId, input.toSource draw⟩] }) := by
  rw [create, assertAccess_of_owns owns, forM_requireSolid, requireSolid_eq, newSamples_eq_mapIdx]
  split
  · rfl
  · split <;> rfl

theorem update_of_owns (owns : store.owns caller projectId = true) (sourceId : String)
    (patch : SourcePatch) :
    store.update caller projectId sourceId patch =
      if patch.name.any Text.isBlank then .error (emptyText "Data source name")
      else match store.source? projectId sourceId with
        | none => .error (.notFound .source sourceId)
        | some source =>
          .ok (patch.apply source, store.modifySource projectId sourceId patch.apply) := by
  rw [update, assertAccess_of_owns owns, findSource]
  cases patch.name with
  | none => cases store.source? projectId sourceId <;> rfl
  | some name =>
    simp only [requireSolid_eq, Option.any_some]
    split
    · rfl
    · cases store.source? projectId sourceId <;> rfl

theorem deleteSource_of_owns (owns : store.owns caller projectId = true) (sourceId : String) :
    store.deleteSource caller projectId sourceId =
      match store.source? projectId sourceId with
      | none => .error (.notFound .source sourceId)
      | some _ => .ok ({ store with
          sources := store.sources.filter fun r => !r.isOf projectId sourceId }.cascade
        projectId fun canvas => canvas.clearSource sourceId) := by
  rw [deleteSource, assertAccess_of_owns owns, findSource]
  cases store.source? projectId sourceId <;> rfl

theorem upsertSample_of_owns (owns : store.owns caller projectId = true) (sourceId : String)
    (sample : SampleUpsert) (drawn : String) :
    store.upsertSample caller projectId sourceId sample drawn =
      if Text.isBlank sample.label then .error (emptyText "Sample label")
      else match store.source? projectId sourceId with
        | none => .error (.notFound .source sourceId)
        | some source => .ok ((DataSource.upsert sample drawn source).1,
            store.modifySource projectId sourceId fun s => (DataSource.upsert sample drawn s).2) := by
  rw [upsertSample, assertAccess_of_owns owns, requireSolid_eq, findSource]
  cases Text.isBlank sample.label with
  | true => rfl
  | false => cases store.source? projectId sourceId <;> rfl

theorem deleteSample_of_owns (owns : store.owns caller projectId = true) (sampleId : String) :
    store.deleteSample caller projectId sampleId =
      match store.sources.find? (SourceRecord.holds projectId sampleId) with
      | none => .error (.notFound .sample sampleId)
      | some record => .ok ({ store with
          sources := modifyFirst (SourceRecord.holds projectId sampleId)
            (SourceRecord.mapSource (DataSource.dropSample sampleId)) store.sources }.cascade
        projectId fun canvas => canvas.clearSample record.source.id sampleId) := by
  rw [deleteSample, assertAccess_of_owns owns]
  dsimp only
  cases store.sources.find? (SourceRecord.holds projectId sampleId) <;> rfl

end

/-! ### Outcomes for anybody else -/

theorem respond_of_not_owns {store : Store} {projectId caller : String} {request : Request}
    (asks : request.caller? = some caller) (owns : store.owns caller projectId = false) :
    store.respond projectId request = .error (.authorization projectId) := by
  have refused : store.assertAccess caller projectId = .error (.authorization projectId) := by
    simp [assertAccess, owns]
  cases request with
  | load =>
    cases asks
    rw [respond, load, refused]
    rfl
  | list =>
    cases asks
    rw [respond, list, refused]
    rfl
  | change operation =>
    cases operation <;> cases asks <;>
      simp only [respond, save, create, update, deleteSource, upsertSample, deleteSample, refused]
        <;> rfl

/-! ### What an operation does to the records -/

section

open SourceRecord

/-- The records after an operation of a project that succeeds. -/
def Operation.records (projectId : String) (records : List SourceRecord) :
    Operation → List SourceRecord
  | .register _ | .putRaw _ | .save _ _ => records
  | .create _ input draw => records ++ [⟨projectId, input.toSource draw⟩]
  | .update _ sourceId patch =>
    modifyFirst (isOf projectId sourceId) (mapSource patch.apply) records
  | .deleteSource _ sourceId => records.filter fun r => !r.isOf projectId sourceId
  | .upsertSample _ sourceId sample drawn =>
    modifyFirst (isOf projectId sourceId)
      (mapSource fun s => (DataSource.upsert sample drawn s).2) records
  | .deleteSample _ sampleId =>
    modifyFirst (holds projectId sampleId) (mapSource (DataSource.dropSample sampleId)) records

variable {store store' : Store} {projectId : String}

theorem perform_eq (store : Store) (projectId : String) (operation : Operation) :
    store.perform projectId operation =
      (store.respond projectId (.change operation)).map Prod.snd := by
  have map_id (x : Except StoreError Store) : x.map (fun s => s) = x := by
    cases x <;> rfl
  cases operation <;> simp only [perform, respond, map_map, map_id] <;> rfl

theorem owns_of_perform {operation : Operation} {caller : String}
    (asks : operation.caller? = some caller)
    (performed : store.perform projectId operation = .ok store') :
    store.owns caller projectId = true := by
  cases owns : store.owns caller projectId with
  | true => rfl
  | false =>
    have asks : (Request.change operation).caller? = some caller := asks
    rw [perform_eq, respond_of_not_owns asks owns] at performed
    cases performed

theorem migrated_records_of_perform {operation : Operation}
    (performed : store.perform projectId operation = .ok store') :
    store'.migrated = store.migrated ∧ store'.sources = operation.records projectId store.sources := by
  cases operation with
  | register owner =>
    cases performed
    exact ⟨rfl, rfl⟩
  | putRaw canvas =>
    cases performed
    exact ⟨rfl, rfl⟩
  | save caller canvas =>
    obtain ⟨-, -, rfl⟩ := save_eq_ok_iff.mp performed
    exact ⟨rfl, rfl⟩
  | create caller input draw =>
    have owns := owns_of_perform rfl performed
    rw [perform, create_of_owns owns] at performed
    split at performed
    · cases performed
    · split at performed <;> cases performed
      exact ⟨rfl, rfl⟩
  | update caller sourceId patch =>
    have owns := owns_of_perform rfl performed
    rw [perform, update_of_owns owns] at performed
    split at performed
    · cases performed
    · split at performed <;> cases performed
      exact ⟨rfl, rfl⟩
  | deleteSource caller sourceId =>
    obtain ⟨-, -, rfl⟩ := deleteSource_eq_ok_iff.mp performed
    exact ⟨migrated_cascade .., sources_cascade ..⟩
  | upsertSample caller sourceId sample drawn =>
    have owns := owns_of_perform rfl performed
    rw [perform, upsertSample_of_owns owns] at performed
    split at performed
    · cases performed
    · split at performed <;> cases performed
      exact ⟨rfl, rfl⟩
  | deleteSample caller sampleId =>
    obtain ⟨-, record, -, rfl⟩ := deleteSample_eq_ok_iff.mp performed
    exact ⟨migrated_cascade .., sources_cascade ..⟩

/-- What a project has is its own affair. -/
theorem sourcesIn_records_of_ne {other : String} (different : projectId ≠ other)
    (records : List SourceRecord) (operation : Operation) :
    sourcesIn other (operation.records projectId records) = sourcesIn other records := by
  cases operation with
  | register | putRaw | save => rfl
  | create caller input draw => simp [Operation.records, sourcesIn, different]
  | update caller sourceId patch =>
    exact sourcesIn_modifyFirst_of_ne (asks_isOf _ _) different _ records
  | deleteSource caller sourceId =>
    exact sourcesIn_remove_of_ne (asks_isOf _ _) different records
  | upsertSample caller sourceId sample drawn =>
    exact sourcesIn_modifyFirst_of_ne (asks_isOf _ _) different _ records
  | deleteSample caller sampleId =>
    exact sourcesIn_modifyFirst_of_ne (asks_holds _ _) different _ records

end

/-! ### Runs -/

/-- Requests of many projects, one after the other. -/
def run (store : Store) (calls : List (String × Request)) : Store :=
  calls.foldl (fun s call => (s.step call.1 call.2).2) store

/-- Every request of a run is as `P` asks, seen from the store that it finds. -/
def Throughout (P : Store → String → Request → Prop) (store : Store) :
    List (String × Request) → Prop
  | [] => True
  | (projectId, request) :: rest =>
    P store projectId request ∧ Throughout P (store.step projectId request).2 rest

instance Throughout.decidable {P : Store → String → Request → Prop}
    [∀ store projectId request, Decidable (P store projectId request)] (store : Store) :
    (calls : List (String × Request)) → Decidable (store.Throughout P calls)
  | [] => .isTrue trivial
  | (projectId, request) :: rest =>
    have := Throughout.decidable (P := P) (store.step projectId request).2 rest
    inferInstanceAs (Decidable (P store projectId request ∧ Throughout P _ rest))

section

variable {store : Store} {projectId : String}

theorem snd_step_eq_or (store : Store) (projectId : String) (request : Request) :
    (store.step projectId request).2 = store ∨ ∃ operation, request = .change operation ∧
      store.perform projectId operation = .ok (store.step projectId request).2 := by
  unfold step
  cases responded : store.respond projectId request with
  | error e => exact .inl rfl
  | ok result =>
    cases request with
    | load caller =>
      obtain ⟨canvas, -, rfl⟩ := map_eq_ok_iff.mp responded
      exact .inl rfl
    | list caller =>
      obtain ⟨sources, -, rfl⟩ := map_eq_ok_iff.mp responded
      exact .inl rfl
    | change operation =>
      refine .inr ⟨operation, rfl, ?_⟩
      rw [perform_eq, responded]
      rfl

theorem migrated_step (store : Store) (projectId : String) (request : Request) :
    (store.step projectId request).2.migrated = store.migrated := by
  rcases store.snd_step_eq_or projectId request with same | ⟨operation, -, performed⟩
  · rw [same]
  · exact (migrated_records_of_perform performed).1

/-- What every step keeps, under a condition on the requests, a run keeps. -/
theorem Throughout.keeps {P : Store → String → Request → Prop} {I : Store → Prop}
    (keep : ∀ {store projectId request}, P store projectId request → I store →
      I (store.step projectId request).2)
    {calls : List (String × Request)} (h : store.Throughout P calls) (start : I store) :
    I (store.run calls) := by
  induction calls generalizing store with
  | nil => exact start
  | cons call rest ih => exact ih h.2 (keep h.1 start)

end

end Store

end PageBuilder

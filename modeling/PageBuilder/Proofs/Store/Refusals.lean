import PageBuilder.Proofs.Store.Requests
/-! Requests that are refused. Here the operations work on a store in place: they ask it and
write to it, and a failure does not take back what was written. They come to the same as the
operations that make a new store, so nothing is written before everything has been asked. -/
namespace PageBuilder

theorem map_bind {ε α β γ : Type} (x : Except ε α) (g : α → Except ε β) (f : β → γ) :
    (x >>= g).map f = x >>= fun a => (g a).map f := by
  cases x <;> rfl

theorem discard_bind {ε α β : Type} (x : Except ε α) (g : Unit → Except ε β) :
    discard x >>= g = x >>= fun _ => g () := by
  cases x <;> rfl

namespace Store

/-! ### Work in place -/

/-- Work on a store, in which what was written before a failure stays written. -/
abbrev InPlace := EStateM StoreError Store

namespace InPlace

variable {α β : Type}

def ask (question : Store → Except StoreError α) : InPlace α := do
  match question (← get) with
  | .ok a => return a
  | .error e => throw e

def write (change : Store → Store) : InPlace Unit :=
  modify change

section

variable (caller projectId : String)

def access : InPlace Unit :=
  ask fun store => store.assertAccess caller projectId

def save (canvas : Canvas) : InPlace Unit := do
  access caller projectId
  ask fun store => if store.migrated then .ok () else .error .schemaUnsupported
  write fun store => store.putRaw projectId canvas.toValue

def create (input : NewDataSource) (draw : Nat → String) : InPlace DataSource := do
  access caller projectId
  ask fun _ => requireSolid "Data source name" input.name
  ask fun _ => input.samples.forM fun s => requireSolid "Sample label" s.label
  write fun store =>
    { store with sources := store.sources ++ [⟨projectId, input.toSource draw⟩] }
  return input.toSource draw

def update (sourceId : String) (patch : SourcePatch) : InPlace DataSource := do
  access caller projectId
  if let some name := patch.name then
    ask fun _ => requireSolid "Data source name" name
  let source ← ask fun store => store.findSource projectId sourceId
  write fun store => store.modifySource projectId sourceId patch.apply
  return patch.apply source

def deleteSource (sourceId : String) : InPlace Unit := do
  access caller projectId
  let _ ← ask fun store => store.findSource projectId sourceId
  write fun store =>
    { store with sources := store.sources.filter fun r => !r.isOf projectId sourceId }
  write fun store => store.cascade projectId fun canvas => canvas.clearSource sourceId

def upsertSample (sourceId : String) (sample : SampleUpsert) (drawn : String) :
    InPlace DataSample := do
  access caller projectId
  ask fun _ => requireSolid "Sample label" sample.label
  let source ← ask fun store => store.findSource projectId sourceId
  write fun store =>
    store.modifySource projectId sourceId fun s => (DataSource.upsert sample drawn s).2
  return (DataSource.upsert sample drawn source).1

def findHolder (store : Store) (projectId sampleId : String) : Except StoreError DataSource :=
  match store.sources.find? (SourceRecord.holds projectId sampleId) with
  | some record => .ok record.source
  | none => .error (.notFound .sample sampleId)

def deleteSample (sampleId : String) : InPlace Unit := do
  access caller projectId
  let holder ← ask fun store => findHolder store projectId sampleId
  write fun store =>
    { store with
      sources := modifyFirst (SourceRecord.holds projectId sampleId)
        (SourceRecord.mapSource (DataSource.dropSample sampleId)) store.sources }
  write fun store => store.cascade projectId fun canvas => canvas.clearSample holder.id sampleId

end

def respond (projectId : String) : Request → InPlace Answer
  | .load caller => .canvas <$> ask fun store => store.load caller projectId
  | .list caller => .sources <$> ask fun store => store.list caller projectId
  | .change (.register owner) => do
    write fun store => store.register owner projectId
    return .done
  | .change (.putRaw canvas) => do
    write fun store => store.putRaw projectId canvas
    return .done
  | .change (.save caller canvas) =>
    (fun () => .done) <$> save caller projectId canvas
  | .change (.create caller input draw) => .source <$> create caller projectId input draw
  | .change (.update caller sourceId patch) => .source <$> update caller projectId sourceId patch
  | .change (.deleteSource caller sourceId) =>
    (fun () => .done) <$> deleteSource caller projectId sourceId
  | .change (.upsertSample caller sourceId sample drawn) =>
    .sample <$> upsertSample caller projectId sourceId sample drawn
  | .change (.deleteSample caller sampleId) =>
    (fun () => .done) <$> deleteSample caller projectId sampleId

/-! ### What work in place comes to -/

/-- The outcome of an operation that makes a new store, when that takes the place of the old
one just if the operation succeeds. -/
def settle (store : Store) : Except StoreError (α × Store) → EStateM.Result StoreError Store α
  | .ok (a, store') => .ok a store'
  | .error e => .error e store

variable {store : Store}

theorem run_bind (work : InPlace α) (f : α → InPlace β) : (work >>= f).run store =
    match work.run store with
    | .ok a store' => (f a).run store'
    | .error e store' => .error e store' := by
  show EStateM.bind work f store = _
  rw [EStateM.bind, EStateM.run]
  cases work store <;> rfl

theorem run_map (work : InPlace α) (f : α → β) : (f <$> work).run store =
    match work.run store with
    | .ok a store' => .ok (f a) store'
    | .error e store' => .error e store' := by
  show EStateM.map f work store = _
  rw [EStateM.map, EStateM.run]
  cases work store <;> rfl

theorem run_ask (question : Store → Except StoreError α) :
    (ask question).run store = settle store ((question store).map (·, store)) := by
  show (match question store with | .ok a => (pure a : InPlace α) | .error e => throw e).run store = _
  cases question store <;> rfl

/-- Both ask the same question first. -/
theorem run_ask_bind {question : Store → Except StoreError α} {f : α → InPlace β}
    {g : α → Except StoreError (β × Store)}
    (h : ∀ a, question store = .ok a → (f a).run store = settle store (g a)) :
    (ask question >>= f).run store = settle store (question store >>= g) := by
  rw [run_bind, run_ask]
  cases answered : question store with
  | ok a => exact h a answered
  | error e => rfl

/-- The answer is passed on in another form. -/
theorem run_map_settle {work : InPlace α} {outcome : Except StoreError (α × Store)} (f : α → β)
    (h : work.run store = settle store outcome) :
    (f <$> work).run store = settle store (outcome.map fun r => (f r.1, r.2)) := by
  rw [run_map, h]
  cases outcome <;> rfl

variable {caller projectId : String}

theorem run_save (canvas : Canvas) : (save caller projectId canvas).run store =
    settle store ((store.save caller projectId canvas).map ((), ·)) := by
  unfold save Store.save
  rw [map_bind]
  apply run_ask_bind
  intro _ _
  refine (run_ask_bind (g := fun _ => .ok ((), store.putRaw projectId canvas.toValue)) ?_).trans ?_
  · intro _ _
    rfl
  · cases store.migrated <;> rfl

theorem run_create (input : NewDataSource) (draw : Nat → String) :
    (create caller projectId input draw).run store =
      settle store (store.create caller projectId input draw) := by
  unfold Store.create
  simp only [newSamples_eq_mapIdx]
  apply run_ask_bind
  intro _ _
  apply run_ask_bind
  intro _ _
  apply run_ask_bind
  intro _ _
  rfl

theorem run_update (sourceId : String) (patch : SourcePatch) :
    (update caller projectId sourceId patch).run store =
      settle store (store.update caller projectId sourceId patch) := by
  unfold update Store.update
  cases patch.name with
  | none =>
    apply run_ask_bind
    intro _ _
    apply run_ask_bind
    intro _ _
    rfl
  | some name =>
    apply run_ask_bind
    intro _ _
    apply run_ask_bind
    intro _ _
    apply run_ask_bind
    intro _ _
    rfl

theorem run_deleteSource (sourceId : String) :
    (deleteSource caller projectId sourceId).run store =
      settle store ((store.deleteSource caller projectId sourceId).map ((), ·)) := by
  unfold deleteSource Store.deleteSource
  rw [map_bind]
  apply run_ask_bind
  intro _ _
  rw [discard_bind, map_bind]
  apply run_ask_bind
  intro _ _
  rfl

theorem run_upsertSample (sourceId : String) (sample : SampleUpsert) (drawn : String) :
    (upsertSample caller projectId sourceId sample drawn).run store =
      settle store (store.upsertSample caller projectId sourceId sample drawn) := by
  apply run_ask_bind
  intro _ _
  apply run_ask_bind
  intro _ _
  apply run_ask_bind
  intro _ _
  rfl

theorem run_deleteSample (sampleId : String) :
    (deleteSample caller projectId sampleId).run store =
      settle store ((store.deleteSample caller projectId sampleId).map ((), ·)) := by
  unfold deleteSample Store.deleteSample
  rw [map_bind]
  apply run_ask_bind
  intro _ _
  let left : Store := { store with
    sources := modifyFirst (SourceRecord.holds projectId sampleId)
      (SourceRecord.mapSource (DataSource.dropSample sampleId)) store.sources }
  refine (run_ask_bind (g := fun holder => .ok ((), left.cascade projectId fun canvas =>
    canvas.clearSample holder.id sampleId)) fun _ _ => rfl).trans ?_
  dsimp only [findHolder]
  cases store.sources.find? (SourceRecord.holds projectId sampleId) <;> rfl

theorem run_respond (store : Store) (projectId : String) (request : Request) :
    (respond projectId request).run store = settle store (store.respond projectId request) := by
  cases request with
  | load caller =>
    rw [respond, run_map_settle _ (run_ask _), map_map]
    rfl
  | list caller =>
    rw [respond, run_map_settle _ (run_ask _), map_map]
    rfl
  | change operation =>
    cases operation with
    | register owner => rfl
    | putRaw canvas => rfl
    | save caller canvas =>
      rw [respond, run_map_settle _ (run_save canvas), map_map]
      rfl
    | create caller input draw => exact run_map_settle _ (run_create input draw)
    | update caller sourceId patch => exact run_map_settle _ (run_update sourceId patch)
    | deleteSource caller sourceId =>
      rw [respond, run_map_settle _ (run_deleteSource sourceId), map_map]
      rfl
    | upsertSample caller sourceId sample drawn =>
      exact run_map_settle _ (run_upsertSample sourceId sample drawn)
    | deleteSample caller sampleId =>
      rw [respond, run_map_settle _ (run_deleteSample sampleId), map_map]
      rfl

end InPlace

/-! ### Refusals -/

section

variable {store : Store} {projectId caller : String}

theorem owns_eq_true_iff : store.owns caller projectId = true ↔
    ∃ project, store.project? projectId = some project ∧ project.owner = caller := by
  simp [owns, Option.any_eq_true]

/-- An owner is not told that access is denied, whatever else is wrong. -/
theorem respond_ne_authorization {request : Request} (asks : request.caller? = some caller)
    (owns : store.owns caller projectId = true) (named : String) :
    store.respond projectId request ≠ .error (.authorization named) := by
  cases request with
  | load =>
    cases asks
    simp [respond, load_of_owns owns, Except.map]
  | list =>
    cases asks
    simp [respond, list_of_owns owns, Except.map]
  | change operation =>
    cases operation with
    | register | putRaw => cases asks
    | save =>
      cases asks
      rw [respond, save_of_owns owns]
      split <;> simp [Except.map]
    | create =>
      cases asks
      rw [respond, create_of_owns owns]
      split
      · simp [Except.map, emptyText]
      · split <;> simp [Except.map, emptyText]
    | update =>
      cases asks
      rw [respond, update_of_owns owns]
      split
      · simp [Except.map, emptyText]
      · split <;> simp [Except.map]
    | deleteSource =>
      cases asks
      rw [respond, deleteSource_of_owns owns]
      split <;> simp [Except.map]
    | upsertSample =>
      cases asks
      rw [respond, upsertSample_of_owns owns]
      split
      · simp [Except.map, emptyText]
      · split <;> simp [Except.map]
    | deleteSample =>
      cases asks
      rw [respond, deleteSample_of_owns owns]
      split <;> simp [Except.map]

theorem authorization_iff {request : Request} (asks : request.caller? = some caller) :
    (∃ named, store.respond projectId request = .error (.authorization named)) ↔
      store.owns caller projectId = false := by
  constructor
  · rintro ⟨named, refused⟩
    cases owns : store.owns caller projectId with
    | false => rfl
    | true => exact absurd refused (respond_ne_authorization asks owns named)
  · intro owns
    exact ⟨projectId, respond_of_not_owns asks owns⟩

theorem settle_eq_error_iff {α : Type} {outcome : Except StoreError (α × Store)} {e : StoreError}
    {store' : Store} :
    InPlace.settle store outcome = .error e store' ↔ outcome = .error e ∧ store' = store := by
  cases outcome with
  | ok result => simp [InPlace.settle]
  | error cause => simp [InPlace.settle, eq_comm (a := store)]

/-- Access is checked before anything else, and a request that is refused, for whatever cause,
has written nothing. Work in place does what the operations that make a new store do. -/
theorem refusals (store : Store) (projectId : String) (request : Request) :
    let outcome := (InPlace.respond projectId request).run store
    (∀ caller, request.caller? = some caller →
      ((∃ named store', outcome = .error (.authorization named) store') ↔
        ∀ project, store.project? projectId = some project → project.owner ≠ caller)) ∧
    (∀ e store', outcome = .error e store' → store' = store) ∧
    outcome = (match store.respond projectId request with
      | .ok (answer, store') => .ok answer store'
      | .error e => .error e store) := by
  intro outcome
  have settled : outcome = InPlace.settle store (store.respond projectId request) :=
    InPlace.run_respond store projectId request
  refine ⟨fun caller asks => ?_, fun e store' failed => ?_, ?_⟩
  · simp only [settled, settle_eq_error_iff, exists_and_left, exists_eq, and_true,
      authorization_iff asks]
    rw [Bool.eq_false_iff, ne_eq, owns_eq_true_iff]
    simp
  · rw [settled, settle_eq_error_iff] at failed
    exact failed.2
  · rw [settled]
    cases store.respond projectId request <;> rfl

end

end Store

end PageBuilder

import PageBuilder.Source.Cascade
import PageBuilder.Store.Canvases
import PageBuilder.Store.Input
/-! The data sources of projects and their samples. Whatever is deleted also
vanishes from the bindings of the project's stored canvas. -/
namespace PageBuilder

def requireSolid (what text : String) : Except StoreError Unit :=
  if Text.isBlank text then .error (.validation (what ++ " must not be empty")) else .ok ()

/-- Changes the first element of which `p` holds. -/
def modifyFirst (p : α → Bool) (change : α → α) : List α → List α
  | [] => []
  | x :: rest => if p x then change x :: rest else x :: modifyFirst p change rest

namespace SourceRecord

/-- Whether it is the record of a source in a project. -/
def isOf (projectId sourceId : String) (r : SourceRecord) : Bool :=
  r.source.id = sourceId && r.projectId = projectId

/-- Whether it is the record of a project's source that holds a sample. -/
def holds (projectId sampleId : String) (r : SourceRecord) : Bool :=
  r.projectId = projectId && (r.source.sample? sampleId).isSome

def mapSource (change : DataSource → DataSource) (r : SourceRecord) : SourceRecord :=
  { r with source := change r.source }

end SourceRecord

/-! ### Samples -/

/-- Samples with freshly drawn ids; `draw` is asked from `index` on. -/
def newSamples (draw : Nat → String) (index : Nat) : List NewSample → List DataSample
  | [] => []
  | s :: rest => ⟨draw index, s.label, s.payload⟩ :: newSamples draw (index + 1) rest

namespace DataSource

/-- Changes the sample that the id names, or appends one under the id drawn. -/
def upsert (sample : SampleUpsert) (drawn : String) (source : DataSource) :
    DataSample × DataSource :=
  match sample.sampleId.bind source.sample? with
  | some found =>
    let changed : DataSample := ⟨found.id, sample.label, sample.payload⟩
    (changed, { source with
      samples := modifyFirst (fun s => s.id = found.id) (fun _ => changed) source.samples })
  | none =>
    let created : DataSample := ⟨drawn, sample.label, sample.payload⟩
    (created, { source with samples := source.samples ++ [created] })

def dropSample (sampleId : String) (source : DataSource) : DataSource :=
  { source with samples := source.samples.filter fun s => s.id ≠ sampleId }

end DataSource

/-! ### Operations -/

namespace Store

/-- A project's sources in the order they were created. -/
def sourcesOf (store : Store) (projectId : String) : List DataSource :=
  (store.sources.filter fun r => r.projectId = projectId).map SourceRecord.source

def list (store : Store) (owner projectId : String) : Except StoreError (List DataSource) := do
  store.assertAccess owner projectId
  return store.sourcesOf projectId

def source? (store : Store) (projectId sourceId : String) : Option DataSource :=
  (store.sources.find? (SourceRecord.isOf projectId sourceId)).map SourceRecord.source

def findSource (store : Store) (projectId sourceId : String) : Except StoreError DataSource :=
  match store.source? projectId sourceId with
  | some source => .ok source
  | none => .error (.notFound .source sourceId)

def modifySource (store : Store) (projectId sourceId : String)
    (change : DataSource → DataSource) : Store :=
  { store with
    sources := modifyFirst (SourceRecord.isOf projectId sourceId)
      (SourceRecord.mapSource change) store.sources }

/-- Creates a source. `draw 0` is its id, and those of its samples follow. -/
def create (store : Store) (owner projectId : String) (input : NewDataSource)
    (draw : Nat → String) : Except StoreError (DataSource × Store) := do
  store.assertAccess owner projectId
  requireSolid "Data source name" input.name
  input.samples.forM fun s => requireSolid "Sample label" s.label
  let source : DataSource := {
    id := draw 0
    name := input.name
    kind := input.kind
    endpoint := input.endpoint
    method := input.method
    headers := input.headers
    description := input.description
    config := input.config
    samples := newSamples draw 1 input.samples }
  return (source, { store with sources := store.sources ++ [⟨projectId, source⟩] })

def update (store : Store) (owner projectId sourceId : String) (patch : SourcePatch) :
    Except StoreError (DataSource × Store) := do
  store.assertAccess owner projectId
  match patch.name with
  | some name => requireSolid "Data source name" name
  | none => pure ()
  let source ← store.findSource projectId sourceId
  return (patch.apply source, store.modifySource projectId sourceId patch.apply)

def deleteSource (store : Store) (owner projectId sourceId : String) :
    Except StoreError Store := do
  store.assertAccess owner projectId
  discard (store.findSource projectId sourceId)
  let sources := store.sources.filter fun r => !r.isOf projectId sourceId
  return { store with sources }.cascade projectId fun canvas => canvas.clearSource sourceId

def upsertSample (store : Store) (owner projectId sourceId : String) (sample : SampleUpsert)
    (drawn : String) : Except StoreError (DataSample × Store) := do
  store.assertAccess owner projectId
  requireSolid "Sample label" sample.label
  let source ← store.findSource projectId sourceId
  return ((DataSource.upsert sample drawn source).1,
    store.modifySource projectId sourceId fun s => (DataSource.upsert sample drawn s).2)

/-- Deletes a sample from the first of the project's sources that holds it. -/
def deleteSample (store : Store) (owner projectId sampleId : String) :
    Except StoreError Store := do
  store.assertAccess owner projectId
  let holder := SourceRecord.holds projectId sampleId
  match store.sources.find? holder with
  | none => throw (.notFound .sample sampleId)
  | some record =>
    let sources := modifyFirst holder
      (SourceRecord.mapSource (DataSource.dropSample sampleId)) store.sources
    return { store with sources }.cascade projectId fun canvas =>
      canvas.clearSample record.source.id sampleId

end Store

end PageBuilder

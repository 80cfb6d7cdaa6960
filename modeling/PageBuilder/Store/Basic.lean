import PageBuilder.Source.Basic
import PageBuilder.Text.Blank
import PageBuilder.Text.Search
/-! What the project store holds, and how its operations may fail. -/
namespace PageBuilder

open Json (Value)

/-- What a store looks up by an id. -/
inductive Entity where
  | source
  | sample
  deriving DecidableEq, Repr

def Entity.phrase : Entity → String
  | .source => "Data source"
  | .sample => "Sample"

inductive StoreError where
  | authorization (projectId : String)
  | schemaUnsupported
  | notFound (entity : Entity) (id : String)
  | validation (message : String)
  | backend (message : String)
  deriving DecidableEq, Repr

namespace StoreError

def message : StoreError → String
  | .authorization projectId =>
    "Project '" ++ projectId ++ "' was not found or you do not have access to it"
  | .schemaUnsupported =>
    "The canvas state column is not provisioned yet. Run the pending database migration and restart the server"
  | .notFound entity id =>
    entity.phrase ++ " '" ++ id ++ "' was not found or you do not have access to it"
  | .validation message => "Invalid input: " ++ message
  | .backend message => "Storage backend failure: " ++ message

/-- Texts in which a database says that the column for canvases is not there yet. -/
def schemaMarkers : List String := [
  "Unknown argument `canvasState`",
  "Unknown field `canvasState`",
  "column \"canvasState\" does not exist",
  "column \"canvas_state\" does not exist"]

/-- What a database's own error message stands for. -/
def ofBackend (message : String) : StoreError :=
  if schemaMarkers.any fun marker => Text.contains message marker then .schemaUnsupported
  else .backend message

end StoreError

/-- A project and the canvas stored for it, as a raw value. -/
structure Project where
  owner : String
  canvas : Option Value
  deriving DecidableEq, Repr

structure SourceRecord where
  projectId : String
  source : DataSource
  deriving DecidableEq, Repr

/-- All projects by id, and their sources in the order they were created. A store
that is not migrated has no place for canvases. -/
structure Store where
  projects : List (String × Project)
  sources : List SourceRecord
  migrated : Bool
  deriving DecidableEq, Repr

namespace Store

def empty (migrated : Bool) : Store := ⟨[], [], migrated⟩

def project? (store : Store) (projectId : String) : Option Project :=
  Assoc.get? projectId store.projects

end Store

end PageBuilder

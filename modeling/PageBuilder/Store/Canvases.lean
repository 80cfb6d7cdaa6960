import PageBuilder.Canvas.Normalize
import PageBuilder.Canvas.Stored
import PageBuilder.Store.Basic
/-! Projects and their canvases. Every operation asks first whether the caller owns
the project, and one that fails gives no new store. -/
namespace PageBuilder.Store

open Json (Value)

/-- Registers a project; one that is known gets a new owner. -/
def register (store : Store) (owner projectId : String) : Store :=
  let canvas := (store.project? projectId).bind Project.canvas
  { store with projects := Assoc.put projectId ⟨owner, canvas⟩ store.projects }

/-- Stores a value as a project's canvas, whatever it is. -/
def putRaw (store : Store) (projectId : String) (canvas : Value) : Store :=
  { store with
    projects := Assoc.modify projectId (fun p => { p with canvas := some canvas }) store.projects }

def owns (store : Store) (owner projectId : String) : Bool :=
  (store.project? projectId).any fun p => p.owner = owner

def assertAccess (store : Store) (owner projectId : String) : Except StoreError Unit :=
  if store.owns owner projectId then .ok () else .error (.authorization projectId)

/-- A stored value as a canvas; one that cannot be read counts as none. -/
def readCanvas (stored : Value) : Option Canvas :=
  (Canvas.read stored).toOption

/-- The normalized canvas; none if nothing readable is stored. -/
def load (store : Store) (owner projectId : String) : Except StoreError (Option Canvas) := do
  store.assertAccess owner projectId
  if store.migrated then
    return (((store.project? projectId).bind Project.canvas).bind readCanvas).map Canvas.normalize
  else return none

def save (store : Store) (owner projectId : String) (canvas : Canvas) :
    Except StoreError Store := do
  store.assertAccess owner projectId
  if store.migrated then return store.putRaw projectId canvas.toValue
  else throw .schemaUnsupported

/-- Applies a rule to the stored canvas of a project, if there is a readable one. -/
def cascade (store : Store) (projectId : String) (rule : Canvas → Canvas) : Store :=
  if store.migrated then
    match ((store.project? projectId).bind Project.canvas).bind readCanvas with
    | some canvas => store.putRaw projectId (rule canvas).toValue
    | none => store
  else store

end PageBuilder.Store

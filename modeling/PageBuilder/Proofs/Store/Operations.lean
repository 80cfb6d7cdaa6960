import PageBuilder.Proofs.Canvas.Encoding
import PageBuilder.Store.Sources
/-! The operations of a store as one type, and what they leave alone: an operation on
one project changes nothing of the record of another. -/
namespace PageBuilder

open Json (Value)

namespace Store

/-- What can be asked of a project. -/
inductive Operation where
  | register (owner : String)
  | putRaw (canvas : Value)
  | save (caller : String) (canvas : Canvas)
  | create (caller : String) (input : NewDataSource) (draw : Nat → String)
  | update (caller sourceId : String) (patch : SourcePatch)
  | deleteSource (caller sourceId : String)
  | upsertSample (caller sourceId : String) (sample : SampleUpsert) (drawn : String)
  | deleteSample (caller sampleId : String)

def perform (store : Store) (projectId : String) : Operation → Except StoreError Store
  | .register owner => .ok (store.register owner projectId)
  | .putRaw canvas => .ok (store.putRaw projectId canvas)
  | .save caller canvas => store.save caller projectId canvas
  | .create caller input draw => (store.create caller projectId input draw).map Prod.snd
  | .update caller sourceId patch => (store.update caller projectId sourceId patch).map Prod.snd
  | .deleteSource caller sourceId => store.deleteSource caller projectId sourceId
  | .upsertSample caller sourceId sample drawn =>
    (store.upsertSample caller projectId sourceId sample drawn).map Prod.snd
  | .deleteSample caller sampleId => store.deleteSample caller projectId sampleId

/-- An operation that fails leaves the store as it is. -/
def after (store : Store) (projectId : String) (operation : Operation) : Store :=
  (store.perform projectId operation).toOption.getD store

variable {store store' : Store} {projectId other : String}

/-! ### The record of a project -/

theorem project?_putRaw (store : Store) (projectId : String) (canvas : Value) :
    (store.putRaw projectId canvas).project? projectId =
      (store.project? projectId).map fun p => { p with canvas := some canvas } :=
  Assoc.get?_modify_self projectId _ store.projects

theorem project?_putRaw_of_ne (h : other ≠ projectId) (canvas : Value) :
    (store.putRaw other canvas).project? projectId = store.project? projectId :=
  Assoc.get?_modify_of_ne h _ store.projects

theorem project?_register_of_ne (h : other ≠ projectId) (owner : String) :
    (store.register owner other).project? projectId = store.project? projectId :=
  Assoc.get?_put_of_ne h _ store.projects

theorem project?_cascade_of_ne (h : other ≠ projectId) (rule : Canvas → Canvas) :
    (store.cascade other rule).project? projectId = store.project? projectId := by
  unfold cascade
  split
  · split
    · exact project?_putRaw_of_ne h _
    · rfl
  · rfl

@[simp] theorem migrated_cascade (store : Store) (projectId : String) (rule : Canvas → Canvas) :
    (store.cascade projectId rule).migrated = store.migrated := by
  unfold cascade
  split
  · split <;> rfl
  · rfl

/-! ### Saving and loading -/

/-- What is stored as the canvas of a project, as far as it can be read. -/
def stored? (store : Store) (projectId : String) : Option Canvas :=
  ((store.project? projectId).bind Project.canvas).bind readCanvas

theorem load_eq_ok_iff {owner : String} {result : Option Canvas} :
    store.load owner projectId = .ok result ↔ store.owns owner projectId = true ∧
      (if store.migrated then (store.stored? projectId).map Canvas.normalize else none) =
        result := by
  unfold load assertAccess
  split
  · rename_i h
    cases hm : store.migrated <;>
      simp [h, bind, Except.bind, pure, Except.pure, stored?]
  · rename_i h
    simp [h, bind, Except.bind]

theorem save_eq_ok_iff {caller : String} {canvas : Canvas} :
    store.save caller projectId canvas = .ok store' ↔ store.owns caller projectId = true ∧
      store.migrated = true ∧ store.putRaw projectId canvas.toValue = store' := by
  unfold save assertAccess
  split
  · rename_i h
    cases hm : store.migrated <;>
      simp [h, bind, Except.bind, pure, Except.pure, throw, throwThe, MonadExceptOf.throw]
  · rename_i h
    simp [h, bind, Except.bind]

theorem owns_putRaw (store : Store) (owner projectId : String) (canvas : Value) :
    (store.putRaw projectId canvas).owns owner projectId = store.owns owner projectId := by
  unfold owns
  rw [project?_putRaw, Option.any_map]

theorem isSome_project?_of_owns {owner : String} (h : store.owns owner projectId = true) :
    (store.project? projectId).isSome = true := by
  obtain ⟨p, hp, -⟩ := (Option.any_eq_true _ _).mp h
  simp [hp]

theorem stored?_putRaw_eq (h : (store.project? projectId).isSome = true) (canvas : Value) :
    (store.putRaw projectId canvas).stored? projectId = readCanvas canvas := by
  unfold stored?
  rw [project?_putRaw]
  obtain ⟨p, hp⟩ := Option.isSome_iff_exists.mp h
  simp [hp]

theorem stored?_putRaw (h : (store.project? projectId).isSome = true) (canvas : Canvas) :
    (store.putRaw projectId canvas.toValue).stored? projectId = some canvas := by
  rw [stored?_putRaw_eq h, readCanvas, Canvas.read_toValue]
  rfl

/-- Whoever saved the canvas, its owner loads it back, normalized. -/
theorem load_of_save {owner caller : String} {canvas : Canvas}
    (h : store.owns owner projectId = true)
    (hs : store.save caller projectId canvas = .ok store') :
    store'.load owner projectId = .ok (some canvas.normalize) := by
  obtain ⟨-, migrated, rfl⟩ := save_eq_ok_iff.mp hs
  refine load_eq_ok_iff.mpr ⟨?_, ?_⟩
  · rw [owns_putRaw, h]
  · have : (store.putRaw projectId canvas.toValue).migrated = true := migrated
    rw [if_pos this, stored?_putRaw (isSome_project?_of_owns h), Option.map_some]

/-! ### Other projects -/

/-- The two have the same place for canvases and the same record of the project. -/
def Agree (projectId : String) (store store' : Store) : Prop :=
  store'.migrated = store.migrated ∧ store'.project? projectId = store.project? projectId

theorem load_congr (h : Agree projectId store store') (owner : String) :
    store'.load owner projectId = store.load owner projectId := by
  obtain ⟨migrated, project⟩ := h
  unfold load assertAccess owns
  rw [migrated, project]

theorem perform_agree (h : other ≠ projectId) {operation : Operation}
    (hp : store.perform other operation = .ok store') : Agree projectId store store' := by
  cases operation with
  | register owner =>
    cases hp
    exact ⟨rfl, project?_register_of_ne h owner⟩
  | putRaw canvas =>
    cases hp
    exact ⟨rfl, project?_putRaw_of_ne h canvas⟩
  | save caller canvas =>
    obtain ⟨-, -, rfl⟩ := save_eq_ok_iff.mp hp
    exact ⟨rfl, project?_putRaw_of_ne h _⟩
  | create caller input draw =>
    simp only [perform, map_eq_ok_iff, create, bind_eq_ok_iff] at hp
    obtain ⟨_, ⟨_, -, _, -, _, -, hp⟩, rfl⟩ := hp
    cases hp
    exact ⟨rfl, rfl⟩
  | update caller sourceId patch =>
    simp only [perform, map_eq_ok_iff, update, bind_eq_ok_iff] at hp
    obtain ⟨_, ⟨_, -, hp⟩, rfl⟩ := hp
    split at hp
    · simp only [bind_eq_ok_iff] at hp
      obtain ⟨_, -, _, -, hp⟩ := hp
      cases hp
      exact ⟨rfl, rfl⟩
    · simp only [bind_eq_ok_iff] at hp
      obtain ⟨_, -, hp⟩ := hp
      cases hp
      exact ⟨rfl, rfl⟩
  | deleteSource caller sourceId =>
    simp only [perform, deleteSource, bind_eq_ok_iff] at hp
    obtain ⟨_, -, _, -, hp⟩ := hp
    cases hp
    exact ⟨by simp, project?_cascade_of_ne h _⟩
  | upsertSample caller sourceId sample drawn =>
    simp only [perform, map_eq_ok_iff, upsertSample, bind_eq_ok_iff] at hp
    obtain ⟨_, ⟨_, -, _, -, _, -, hp⟩, rfl⟩ := hp
    cases hp
    exact ⟨rfl, rfl⟩
  | deleteSample caller sampleId =>
    simp only [perform, deleteSample, bind_eq_ok_iff] at hp
    obtain ⟨_, -, hp⟩ := hp
    split at hp
    · cases hp
    · cases hp
      exact ⟨by simp, project?_cascade_of_ne h _⟩

theorem after_agree (h : other ≠ projectId) (operation : Operation) :
    Agree projectId store (store.after other operation) := by
  unfold after
  cases hp : store.perform other operation with
  | error _ => exact ⟨rfl, rfl⟩
  | ok store' => exact perform_agree h hp

end Store

end PageBuilder

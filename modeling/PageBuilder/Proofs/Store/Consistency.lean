import PageBuilder.Proofs.Canvas.Resolved
import PageBuilder.Proofs.Store.Workspaces
/-! No binding dangles. If the canvases that are saved name sources and samples that exist, so
does every stored canvas at any later time, whoever deletes what. -/
namespace PageBuilder

open Json (Value)

open Store (Request Answer Operation)

/-- No canvas is put raw, and one that is saved is resolved. -/
def Store.Request.Resolved (sources : List DataSource) : Request → Prop
  | .change (.putRaw _) => False
  | .change (.save _ canvas) => canvas.Resolved sources
  | _ => True

instance (sources : List DataSource) : (request : Request) → Decidable (request.Resolved sources)
  | .change (.putRaw _) => .isFalse id
  | .change (.save _ canvas) => inferInstanceAs (Decidable (canvas.Resolved sources))
  | .load _ | .list _ | .change (.register _) | .change (.create ..) | .change (.update ..)
  | .change (.deleteSource ..) | .change (.upsertSample ..) | .change (.deleteSample ..) =>
    .isTrue trivial

namespace Workspace

/-- What is stored as the canvas, if anything is, is a resolved canvas. -/
def Consistent (w : Workspace) : Prop :=
  ∀ value, w.canvas = some value →
    ∃ canvas, Store.readCanvas value = some canvas ∧ canvas.Resolved w.sources

variable {w left : Workspace}

theorem Consistent.covered (h : w.Consistent) (canvas : left.canvas = w.canvas)
    (kept : ∀ s ∈ w.sources, ∃ t ∈ left.sources, t.Covers s) : left.Consistent := by
  intro value stored
  obtain ⟨c, reads, resolved⟩ := h value (canvas ▸ stored)
  exact ⟨c, reads, resolved.mono kept⟩

theorem consistent_of_resolved {c : Canvas} (canvas : w.canvas = some c.toValue)
    (resolved : c.Resolved w.sources) : w.Consistent := by
  intro value stored
  obtain rfl := Option.some.inj (canvas.symm.trans stored)
  refine ⟨c, ?_, resolved⟩
  rw [Store.readCanvas, Canvas.read_toValue]
  rfl

theorem Consistent.redraw (h : w.Consistent) (canvas : left.canvas = w.canvas)
    {rule : Canvas → Canvas}
    (carry : ∀ c : Canvas, c.Resolved w.sources → (rule c).Resolved left.sources) :
    (left.redraw rule).Consistent := by
  rw [Workspace.redraw, canvas]
  cases stored : w.canvas with
  | none =>
    intro value other
    cases (canvas.trans stored).symm.trans other
  | some value =>
    obtain ⟨c, reads, resolved⟩ := h value stored
    rw [Option.bind_some, reads]
    exact consistent_of_resolved rfl (carry c resolved)

theorem Consistent.alter (h : w.Consistent) (p : DataSource → Bool)
    {change : DataSource → DataSource} (covers : ∀ s, (change s).Covers s) :
    (w.alter p change).Consistent := by
  refine h.covered rfl fun s hs => ?_
  rw [Workspace.alter, ← modifyFirst_eq_modify]
  rcases mem_or_mem_modifyFirst change hs with stays | ⟨-, changed⟩
  · exact ⟨s, stays, rfl, fun _ => id⟩
  · exact ⟨change s, changed, covers s⟩

theorem covers_store (sample : SampleUpsert) (drawn : String) (s : DataSource) :
    DataSource.Covers { s with samples := (sample.store drawn s.samples).2 } s := by
  refine ⟨rfl, fun sampleId held => ?_⟩
  obtain ⟨x, hx, rfl⟩ := DataSource.isSome_sample?_iff.mp held
  refine DataSource.isSome_sample?_iff.mpr ?_
  dsimp only
  rw [SampleUpsert.store]
  split
  · dsimp only
    rw [← modifyFirst_eq_modify]
    rcases mem_or_mem_modifyFirst _ hx with stays | ⟨first, changed⟩
    · exact ⟨x, stays, rfl⟩
    · have named := List.find?_some first
      exact ⟨_, changed, by simpa [eq_comm] using named⟩
  · exact ⟨x, List.mem_append_left _ hx, rfl⟩

theorem Consistent.serve (h : w.Consistent) {request : Request} {answer : Answer}
    (permitted : request.Resolved w.sources) (served : w.serve true request = .ok (answer, left)) :
    left.Consistent := by
  cases request with
  | load | list =>
    cases served
    exact h
  | change operation =>
    cases operation with
    | register owner =>
      cases served
      exact h
    | putRaw canvas => cases permitted
    | save caller canvas =>
      cases served
      exact consistent_of_resolved rfl permitted
    | create caller input draw =>
      cases served
      exact h.covered rfl fun s hs => ⟨s, List.mem_append_left _ hs, rfl, fun _ => id⟩
    | update caller sourceId patch =>
      rw [Workspace.serve] at served
      split at served <;> cases served
      exact h.alter _ fun s => ⟨rfl, fun _ => id⟩
    | deleteSource caller sourceId =>
      rw [Workspace.serve] at served
      split at served <;> cases served
      rw [if_pos rfl]
      refine h.redraw ?_ fun c resolved => resolved.clearSource sourceId
      rfl
    | upsertSample caller sourceId sample drawn =>
      rw [Workspace.serve] at served
      split at served <;> cases served
      exact h.alter _ (covers_store sample drawn)
    | deleteSample caller sampleId =>
      rw [Workspace.serve] at served
      split at served <;> cases served
      rename_i holder found
      rw [if_pos rfl]
      -- the canvas is cleared for the very source that loses the sample, be its id unique or not
      refine h.redraw ?_ fun c resolved => resolved.clearSample fun s hs => ?_
      · rfl
      rw [Workspace.alter, ← modifyFirst_eq_modify]
      refine (mem_or_mem_modifyFirst _ hs).imp_right (.imp_left fun first => ?_)
      exact congrArg DataSource.id (Option.some.inj (first.symm.trans found))

theorem consistent_founded {request : Request} (h : founded? request = some w) :
    w.Consistent := by
  have bare : w.canvas = none := by
    cases request with
    | load | list => cases h
    | change operation =>
      cases operation <;> cases h
      rfl
  intro value stored
  cases bare.symm.trans stored

theorem consistent_step {projectId : String} {held : Option Workspace} {request : Request}
    (h : ∀ w ∈ held, w.Consistent)
    (permitted : request.Resolved (held.elim [] Workspace.sources)) :
    ∀ w ∈ (step true projectId held request).2, w.Consistent := by
  unfold step
  split
  · cases held with
    | none => exact fun w founded => consistent_founded founded
    | some w =>
      have consistent := h w rfl
      dsimp only [respond]
      cases request.fault? with
      | some e => exact h
      | none =>
        dsimp only
        cases served : w.serve true request with
        | error e => exact h
        | ok r =>
          rintro _ ⟨⟩
          exact consistent.serve permitted served
  · exact h

end Workspace

namespace Store

/-- What is stored as the canvas of a project is a canvas whose bindings name sources that the
project has and samples of theirs. -/
def Consistent (store : Store) (projectId : String) : Prop :=
  ∀ value, (store.project? projectId).bind Project.canvas = some value →
    ∃ canvas, readCanvas value = some canvas ∧ canvas.Resolved (store.sourcesOf projectId)

/-- Ids that are drawn are fresh, and what is saved is resolved just then. -/
def Permitted (store : Store) (projectId : String) (request : Request) : Prop :=
  store.Fresh projectId request ∧ request.Resolved (store.sourcesOf projectId)

instance (store : Store) (projectId : String) (request : Request) :
    Decidable (Permitted store projectId request) :=
  inferInstanceAs (Decidable (_ ∧ _))

/-- What a permitted request keeps. -/
structure Sound (store : Store) : Prop where
  migrated : store.migrated = true
  distinct : Distinct store.sources
  workspaces : ∀ projectId, ∃ held, store.Shows projectId held ∧ ∀ w ∈ held, w.Consistent

variable {store : Store} {projectId : String} {request : Request}

theorem Sound.step (permitted : store.Permitted projectId request) (h : store.Sound) :
    (store.step projectId request).2.Sound where
  migrated := (store.migrated_step projectId request).trans h.migrated
  distinct := h.distinct.step permitted.1
  workspaces other := by
    obtain ⟨held, shows, consistent⟩ := h.workspaces other
    by_cases own : projectId = other
    · subst own
      refine ⟨_, (shows.step request).2, ?_⟩
      rw [h.migrated]
      exact Workspace.consistent_step consistent (shows.sources ▸ permitted.2)
    · exact ⟨held, shows.elsewhere own request, consistent⟩

theorem sound_empty : (empty true).Sound where
  migrated := rfl
  distinct := distinct_empty true
  workspaces projectId := ⟨none, shows_empty true projectId, nofun⟩

theorem Sound.consistent (h : store.Sound) (projectId : String) : store.Consistent projectId := by
  obtain ⟨held, shows, consistent⟩ := h.workspaces projectId
  cases held with
  | none =>
    intro value stored
    rw [shows.project] at stored
    cases stored
  | some w =>
    intro value stored
    rw [shows.project] at stored
    obtain ⟨canvas, reads, resolved⟩ := consistent w rfl value stored
    exact ⟨canvas, reads, shows.sources ▸ resolved⟩

/-- The owner loads a canvas that reconciling with the listed sources leaves as it is. -/
theorem Sound.reconciled (h : store.Sound) {owner : String}
    (owns : store.owns owner projectId = true) :
    ∃ canvas sources, store.load owner projectId = .ok canvas ∧
      store.list owner projectId = .ok sources ∧
      canvas.map (fun c => c.reconcile sources) = canvas := by
  refine ⟨_, _, load_of_owns owns, list_of_owns owns, ?_⟩
  rw [loaded?, if_pos h.migrated, stored?]
  cases stored : (store.project? projectId).bind Project.canvas with
  | none => rfl
  | some value =>
    obtain ⟨canvas, reads, resolved⟩ := h.consistent projectId value stored
    have same := (Canvas.reconcile_eq_self_iff (h.distinct.nodup_sourcesOf projectId)).mpr resolved
    rw [Option.bind_some, reads, Option.map_some, Option.map_some, ← Canvas.normalize_reconcile,
      same]

/-- Nothing dangles, whoever asks for whatever: every project is consistent at any time, and
its owner loads what reconciling leaves as it is. -/
theorem consistent_run {calls : List (String × Request)}
    (permitted : (empty true).Throughout Permitted calls) (projectId : String) :
    ((empty true).run calls).Consistent projectId ∧
      ∀ owner, ((empty true).run calls).owns owner projectId = true →
        ∃ canvas sources, ((empty true).run calls).load owner projectId = .ok canvas ∧
          ((empty true).run calls).list owner projectId = .ok sources ∧
          canvas.map (fun c => c.reconcile sources) = canvas := by
  have sound := permitted.keeps Sound.step sound_empty
  exact ⟨sound.consistent projectId, fun _ => sound.reconciled⟩

/-- Ada saves a canvas that is bound to a sample. A stranger fails to delete the sample, and Ada
deletes it. -/
theorem consistent_run_deleted_sample :
    let input : NewDataSource :=
      ⟨"Feed", .rest, none, none, none, none, .null, [⟨"First", .null⟩]⟩
    let drawn (i : Nat) : String := if i = 0 then "feed" else "first"
    let placed (binding : Option DataBinding) : Canvas :=
      ⟨[⟨"x", "map", .null, none, binding⟩], none⟩
    let calls : List (String × Request) := [
      ("site", .change (.register "ada")),
      ("site", .change (.create "ada" input drawn)),
      ("site", .change (.save "ada" (placed (some ⟨"feed", some "first", none⟩)))),
      ("site", .change (.upsertSample "ada" "feed" ⟨some "lost", "Second", .null⟩ "second")),
      ("site", .change (.deleteSample "eve" "first")),
      ("site", .change (.deleteSample "ada" "first"))]
    let feed : DataSource := ⟨"feed", "Feed", .rest, none, none, none, none, .null,
      [⟨"second", "Second", .null⟩]⟩
    let store := (empty true).run calls
    (empty true).Throughout Permitted calls ∧ store.Consistent "site" ∧
      store.load "ada" "site" = .ok (some (placed (some ⟨"feed", none, none⟩))) ∧
      store.list "ada" "site" = .ok [feed] ∧
      (placed (some ⟨"feed", none, none⟩)).reconcile [feed] = placed (some ⟨"feed", none, none⟩) := by
  intro input drawn placed calls feed store
  have permitted : (empty true).Throughout Permitted calls := by decide
  have owns : store.owns "ada" "site" = true := by decide
  have loaded : store.load "ada" "site" = .ok (some (placed (some ⟨"feed", none, none⟩))) := by
    decide
  have listed : store.list "ada" "site" = .ok [feed] := by decide
  obtain ⟨consistent, reconciled⟩ := consistent_run permitted "site"
  obtain ⟨canvas, sources, loads, lists, same⟩ := reconciled "ada" owns
  obtain rfl := Except.ok.inj (loaded.symm.trans loads)
  obtain rfl := Except.ok.inj (listed.symm.trans lists)
  exact ⟨permitted, consistent, loaded, listed, Option.some.inj same⟩

end Store

end PageBuilder

import PageBuilder.Proofs.Canvas.Autosave
import PageBuilder.Proofs.Store.Operations
/-! An autosave that works on a project of a store. Whoever saves, and whether or not
that succeeds, the project's owner loads what the autosave takes to be persisted, and
so the draft, once that is clean. -/
namespace PageBuilder

structure DraftSession where
  store : Store
  autosave : Autosave

namespace DraftSession

/-- What may happen while the project is left to the autosave. -/
inductive Event (projectId : String) where
  | edit (next : Canvas) (now : Nat)
  /-- What is due is saved under the name of the caller. -/
  | runPending (caller : String) (now : Nat)
  /-- The autosave is reset to what the owner loads. -/
  | reload
  | elsewhere (other : String) (h : other ≠ projectId) (operation : Store.Operation)

variable {owner projectId : String}

def persistAs (caller projectId : String) (canvas : Canvas) (store : Store) :
    Except StoreError Store :=
  store.save caller projectId canvas

def after (owner : String) (s : DraftSession) : Event projectId → DraftSession
  | .edit next now => { s with autosave := s.autosave.edit next now }
  | .runPending caller now =>
    let result :=
      s.autosave.runPending now StoreError.message (persistAs caller projectId) s.store
    ⟨result.2.2, result.2.1⟩
  | .reload =>
    match s.store.load owner projectId with
    | .ok (some canvas) => { s with autosave := s.autosave.reset canvas }
    | _ => s
  | .elsewhere other _ operation => { s with store := s.store.after other operation }

def run (owner : String) (s : DraftSession) (events : List (Event projectId)) : DraftSession :=
  events.foldl (after owner) s

/-- Nothing awaits its outcome, and the owner loads what was persisted last. -/
structure Synced (owner projectId : String) (s : DraftSession) : Prop where
  consistent : s.autosave.Consistent
  idle : s.autosave.inFlight = none
  held : ∃ canvas, s.store.load owner projectId = .ok (some canvas) ∧
    canvas.equivalent s.autosave.persisted = true

variable {s : DraftSession}

theorem Synced.runPending (h : s.Synced owner projectId) (caller : String) (now : Nat) :
    (after owner s (.runPending caller now : Event projectId)).Synced owner projectId := by
  obtain ⟨canvas, loaded, same⟩ := h.held
  cases hd : s.autosave.isDue now with
  | false =>
    simp only [DraftSession.after, Autosave.runPending_of_not_due hd]
    exact h
  | true =>
    have begun := Autosave.consistent_beginSave s.autosave
    cases hs : persistAs caller projectId s.autosave.draft s.store with
    | error e =>
      simp only [DraftSession.after, Autosave.runPending_of_error hd hs]
      exact ⟨begun.complete (.error e.message), Autosave.complete_inFlight _ _,
        canvas, loaded, same⟩
    | ok store' =>
      simp only [DraftSession.after, Autosave.runPending_of_ok hd hs]
      have owns := (Store.load_eq_ok_iff.mp loaded).1
      refine ⟨begun.complete (.ok ()), Autosave.complete_inFlight _ _,
        s.autosave.draft.normalize, Store.load_of_save owns hs, ?_⟩
      rw [Autosave.complete_beginSave_persisted]
      exact Canvas.normalize_equivalent _

theorem Synced.after (h : s.Synced owner projectId) (event : Event projectId) :
    (after owner s event).Synced owner projectId := by
  cases event with
  | edit next now =>
    refine ⟨h.consistent.edit next now, ?_, ?_⟩
    · exact (Autosave.edit_inFlight _ _ _).trans h.idle
    · simpa [DraftSession.after] using h.held
  | runPending caller now => exact h.runPending caller now
  | reload =>
    obtain ⟨canvas, loaded, -⟩ := h.held
    simp only [DraftSession.after, loaded]
    refine ⟨Autosave.consistent_start _ _, rfl, canvas, loaded, ?_⟩
    exact Canvas.equivalent_symm canvas.normalize_equivalent
  | elsewhere other different operation =>
    refine ⟨h.consistent, h.idle, ?_⟩
    simp only [DraftSession.after]
    rw [Store.load_congr (Store.after_agree different operation)]
    exact h.held

theorem Synced.run (h : s.Synced owner projectId) (events : List (Event projectId)) :
    (run owner s events).Synced owner projectId := by
  induction events generalizing s with
  | nil => exact h
  | cons event rest ih => exact ih (h.after event)

/-- A clean draft is what the owner loads. -/
theorem load_run_start {store : Store} {canvas : Canvas}
    (loaded : store.load owner projectId = .ok (some canvas)) (quietPeriod : Nat)
    (events : List (Event projectId)) :
    let s := run owner ⟨store, .start canvas quietPeriod⟩ events
    ∃ c, s.store.load owner projectId = .ok (some c) ∧
      c.equivalent s.autosave.persisted = true ∧
      (s.autosave.state = .clean → c.equivalent s.autosave.draft = true) := by
  intro s
  have h : s.Synced owner projectId := by
    apply Synced.run
    exact ⟨Autosave.consistent_start _ _, rfl, canvas, loaded, Canvas.equivalent_refl _⟩
  obtain ⟨c, loads, same⟩ := h.held
  refine ⟨c, loads, same, fun clean => ?_⟩
  have settled := (h.consistent.clean clean).2
  exact Canvas.equivalent_trans same (Canvas.equivalent_symm settled)

/-- The save of a stranger fails; that of the owner, after one more edit, succeeds. -/
theorem load_run_two_savers :
    let store : Store := ⟨[("site", ⟨"ada", some (Canvas.toValue .empty)⟩)], [], true⟩
    let draft : Canvas := ⟨[⟨"block-1", "hero", .null, none, none⟩], "block-1"⟩
    let events : List (Event "site") := [.edit draft 0, .runPending "eve" 5, .edit draft 6,
      .elsewhere "shop" (by decide) (.register "eve"), .runPending "ada" 11]
    let s := run "ada" ⟨store, .start .empty 5⟩ events
    store.load "ada" "site" = .ok (some .empty) ∧ s.autosave.state = .clean ∧
      s.autosave.draft = draft ∧ ∃ c, s.store.load "ada" "site" = .ok (some c) ∧
        c.equivalent s.autosave.persisted = true ∧
        (s.autosave.state = .clean → c.equivalent s.autosave.draft = true) := by
  intro store draft events s
  have loaded : store.load "ada" "site" = .ok (some .empty) := by rfl
  exact ⟨loaded, by rfl, by rfl, load_run_start loaded 5 events⟩

end DraftSession

end PageBuilder

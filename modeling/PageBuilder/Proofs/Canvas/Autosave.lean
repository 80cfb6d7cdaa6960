import PageBuilder.Canvas.Autosave
import PageBuilder.Proofs.Canvas.Equivalence
/-! What holds of an autosave whatever happened to it. The deadline during a save is
the part that is easily missed: it is armed by the edits that differ from the snapshot
in flight, and that is what makes the state right once the snapshot is persisted. -/
namespace PageBuilder.Autosave

/-- What may happen to an autosave, at any time and in any order. -/
inductive Event where
  | edit (next : Canvas) (now : Nat)
  | poll (now : Nat)
  | saveNow
  | complete (outcome : Except String Unit)
  /-- `persist` tells how the snapshot is persisted, if one is due. -/
  | runPending (now : Nat) (persist : Canvas → Except String Unit)
  | reset (canvas : Canvas)

def after (a : Autosave) : Event → Autosave
  | .edit next now => a.edit next now
  | .poll now => (a.poll now).2
  | .saveNow => a.saveNow.2
  | .complete outcome => a.complete outcome
  | .runPending now persist => (a.runPending now id (fun canvas () => persist canvas) ()).2.1
  | .reset canvas => a.reset canvas

def run (a : Autosave) (events : List Event) : Autosave :=
  events.foldl after a

/-! ### What the operations do to the snapshot in flight -/

variable {a : Autosave}

theorem complete_of_idle (h : a.inFlight = none) (outcome : Except String Unit) :
    a.complete outcome = a := by
  simp [complete, h]

section

variable (a)

theorem complete_inFlight (outcome : Except String Unit) :
    (a.complete outcome).inFlight = none := by
  unfold complete
  split
  · assumption
  · split
    · split <;> rfl
    · rfl

theorem complete_persisted (outcome : Except String Unit) :
    (a.complete outcome).persisted = a.persisted ∨
      outcome = .ok () ∧ a.inFlight = some (a.complete outcome).persisted := by
  unfold complete
  cases hf : a.inFlight with
  | none => exact .inl rfl
  | some saved =>
    cases outcome with
    | error message => exact .inl rfl
    | ok _ =>
      refine .inr ⟨rfl, ?_⟩
      dsimp only
      split <;> rfl

theorem complete_beginSave_persisted :
    (a.beginSave.2.complete (.ok ())).persisted = a.draft := by
  simp [complete, beginSave]

@[simp] theorem edit_inFlight (next : Canvas) (now : Nat) :
    (a.edit next now).inFlight = a.inFlight := by
  unfold edit
  split
  · rfl
  · split <;> rfl

@[simp] theorem edit_persisted (next : Canvas) (now : Nat) :
    (a.edit next now).persisted = a.persisted := by
  unfold edit
  split
  · rfl
  · split <;> rfl

end

/-! ### The invariant -/

/-- What state, deadline, draft and snapshots say of one another. -/
structure Consistent (a : Autosave) : Prop where
  saving_iff : a.state = .saving ↔ a.inFlight.isSome = true
  clean : a.state = .clean → a.deadline = none ∧ a.draft.equivalent a.persisted = true
  dirty : a.state = .dirty → a.deadline.isSome = true ∧ a.draft.equivalent a.persisted = false
  failed : ∀ message, a.state = .failed message → a.deadline = none ∧ a.inFlight = none
  inFlight : ∀ snapshot, a.inFlight = some snapshot →
    (a.deadline.isSome = true ↔ a.draft.equivalent snapshot = false)

theorem consistent_start (persisted : Canvas) (quietPeriod : Nat) :
    (start persisted quietPeriod).Consistent := by
  constructor <;> simp [start]

theorem Consistent.edit (h : a.Consistent) (next : Canvas) (now : Nat) :
    (a.edit next now).Consistent := by
  unfold Autosave.edit
  cases hf : a.inFlight with
  | some snapshot =>
    have hs := h.saving_iff.mpr (by simp [hf])
    constructor <;> simp [hs]
  | none => cases he : next.equivalent a.persisted <;> constructor <;> simp [he]

/-- The snapshot handed out is the draft, and no edit has been made since. -/
theorem consistent_beginSave (a : Autosave) : a.beginSave.2.Consistent := by
  constructor <;> simp [beginSave]

theorem Consistent.poll (h : a.Consistent) (now : Nat) : (a.poll now).2.Consistent := by
  unfold Autosave.poll
  split
  · exact consistent_beginSave a
  · exact h

theorem Consistent.saveNow (h : a.Consistent) : a.saveNow.2.Consistent := by
  unfold Autosave.saveNow
  split
  · exact h
  · exact consistent_beginSave _

theorem Consistent.complete (h : a.Consistent) (outcome : Except String Unit) :
    (a.complete outcome).Consistent := by
  unfold Autosave.complete
  cases hf : a.inFlight with
  | none => exact h
  | some saved =>
    cases outcome with
    | error message => constructor <;> simp
    | ok _ =>
      have armed := h.inFlight saved hf
      cases he : a.draft.equivalent saved with
      | true => constructor <;> simp [he]
      | false =>
        -- the deadline was armed during the save and stays
        have hd : a.deadline.isSome = true := armed.mpr he
        constructor <;> simp [he, hd]

/-! ### Saving at once -/

section runPending

variable {σ ε : Type} {now : Nat} {message : ε → String} {persist : Canvas → σ → Except ε σ}
  {store : σ}

theorem runPending_of_not_due (h : a.isDue now = false) :
    a.runPending now message persist store = (none, a, store) := by
  simp [runPending, Autosave.poll, h]

theorem runPending_of_ok {store' : σ} (h : a.isDue now = true)
    (hp : persist a.draft store = .ok store') :
    a.runPending now message persist store =
      (some (.ok ()), a.beginSave.2.complete (.ok ()), store') := by
  simp [runPending, Autosave.poll, h, beginSave, hp]

theorem runPending_of_error {e : ε} (h : a.isDue now = true)
    (hp : persist a.draft store = .error e) :
    a.runPending now message persist store =
      (some (.error e), a.beginSave.2.complete (.error (message e)), store) := by
  simp [runPending, Autosave.poll, h, beginSave, hp]

theorem Consistent.runPending (h : a.Consistent) :
    (a.runPending now message persist store).2.1.Consistent := by
  cases hd : a.isDue now with
  | false => rwa [runPending_of_not_due hd]
  | true =>
    cases hp : persist a.draft store with
    | ok store' =>
      rw [runPending_of_ok hd hp]
      exact Consistent.complete (consistent_beginSave a) (.ok ())
    | error e =>
      rw [runPending_of_error hd hp]
      exact Consistent.complete (consistent_beginSave a) (.error (message e))

end runPending

/-! ### Runs -/

theorem Consistent.after (h : a.Consistent) (event : Event) : (a.after event).Consistent := by
  cases event with
  | edit next now => exact h.edit next now
  | poll now => exact h.poll now
  | saveNow => exact h.saveNow
  | complete outcome => exact h.complete outcome
  | runPending now persist => exact h.runPending
  | reset canvas => exact consistent_start canvas.normalize a.quietPeriod

theorem Consistent.run (h : a.Consistent) (events : List Event) : (a.run events).Consistent := by
  induction events generalizing a with
  | nil => exact h
  | cons event rest ih => exact ih (h.after event)

/-- Every state that is reached is consistent, so an edit that is not persisted is
either due, or being saved, or known to have failed. -/
theorem consistent_run_start (persisted : Canvas) (quietPeriod : Nat) (events : List Event) :
    let a := (start persisted quietPeriod).run events
    a.Consistent ∧ (a.draft.equivalent a.persisted = false →
      a.state = .dirty ∧ a.deadline.isSome = true ∨ a.state = .saving ∨
        ∃ message, a.state = .failed message) := by
  intro a
  have h : a.Consistent := (consistent_start persisted quietPeriod).run events
  refine ⟨h, fun differs => ?_⟩
  cases hs : a.state with
  | clean => simp [(h.clean hs).2] at differs
  | dirty => exact .inl ⟨rfl, (h.dirty hs).1⟩
  | saving => exact .inr (.inl rfl)
  | failed message => exact .inr (.inr ⟨message, rfl⟩)

end PageBuilder.Autosave

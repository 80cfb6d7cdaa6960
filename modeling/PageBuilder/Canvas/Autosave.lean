import PageBuilder.Canvas.Normalize
/-! Saving a draft once its edits have paused. A draft that differs from what is
persisted is dirty and has a deadline; each edit moves it. At the deadline a
snapshot is handed out, whose outcome the caller reports later. Times are
milliseconds that the caller reads off its clock. -/
namespace PageBuilder

inductive SaveState where
  | clean
  | dirty
  | saving
  | failed (message : String)
  deriving DecidableEq, Repr

structure Autosave where
  state : SaveState
  quietPeriod : Nat
  deadline : Option Nat
  draft : Canvas
  persisted : Canvas
  /-- The snapshot whose outcome is awaited. -/
  inFlight : Option Canvas
  deriving DecidableEq, Repr

namespace Autosave

/-- Over a canvas that is persisted already. -/
def start (persisted : Canvas) (quietPeriod : Nat) : Autosave where
  state := .clean
  quietPeriod := quietPeriod
  deadline := none
  draft := persisted
  persisted := persisted
  inFlight := none

def isSaving (a : Autosave) : Bool :=
  a.inFlight.isSome

/-- Takes a new draft. While a snapshot is in flight, the draft is compared with
that, since it is what will be persisted. -/
def edit (a : Autosave) (next : Canvas) (now : Nat) : Autosave :=
  match a.inFlight with
  | some snapshot =>
    { a with
      draft := next
      deadline := if next.equivalent snapshot then none else some (now + a.quietPeriod) }
  | none =>
    if next.equivalent a.persisted then
      { a with draft := next, state := .clean, deadline := none }
    else
      { a with draft := next, state := .dirty, deadline := some (now + a.quietPeriod) }

/-- Hands out the draft. -/
def beginSave (a : Autosave) : Canvas × Autosave :=
  (a.draft, { a with inFlight := some a.draft, state := .saving, deadline := none })

/-- Whether a snapshot is to be handed out. -/
def isDue (a : Autosave) (now : Nat) : Bool :=
  !a.isSaving && a.state = .dirty && a.deadline.any fun deadline => deadline ≤ now

/-- Hands out a snapshot if the deadline has passed and none is in flight. -/
def poll (a : Autosave) (now : Nat) : Option Canvas × Autosave :=
  if a.isDue now then
    let (snapshot, next) := a.beginSave
    (some snapshot, next)
  else (none, a)

/-- Hands out the normalized draft at once, unless a snapshot is in flight. -/
def saveNow (a : Autosave) : Option Canvas × Autosave :=
  if a.isSaving then (none, a)
  else
    let (snapshot, next) := { a with draft := a.draft.normalize }.beginSave
    (some snapshot, next)

/-- Reports how saving the snapshot in flight ended: well, or with a message. -/
def complete (a : Autosave) (outcome : Except String Unit) : Autosave :=
  match a.inFlight with
  | none => a
  | some saved =>
    match outcome with
    | .ok () =>
      if a.draft.equivalent saved then
        { a with persisted := saved, inFlight := none, state := .clean, deadline := none }
      else { a with persisted := saved, inFlight := none, state := .dirty }
    | .error message => { a with inFlight := none, state := .failed message, deadline := none }

/-- Polls, persists the snapshot handed out, and reports the outcome. -/
def runPending {σ ε : Type} (a : Autosave) (now : Nat) (message : ε → String)
    (persist : Canvas → σ → Except ε σ) (store : σ) : Option (Except ε Unit) × Autosave × σ :=
  match a.poll now with
  | (none, a) => (none, a, store)
  | (some snapshot, a) =>
    match persist snapshot store with
    | .ok store => (some (.ok ()), a.complete (.ok ()), store)
    | .error e => (some (.error e), a.complete (.error (message e)), store)

/-- Starts over from a canvas that was loaded; a snapshot in flight is dropped. -/
def reset (a : Autosave) (canvas : Canvas) : Autosave :=
  start canvas.normalize a.quietPeriod

end Autosave

end PageBuilder

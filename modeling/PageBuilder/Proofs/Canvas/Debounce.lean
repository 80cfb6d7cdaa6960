import PageBuilder.Proofs.Canvas.Attempts
/-! When a draft is handed out. A deadline is always the quiet period after the last edit, be it
one during a save or not, and the draft is then what that edit made it; so a poll hands out the
last edit once it has rested, and only then. No snapshot follows another before that one is
reported or dropped. -/
namespace PageBuilder.Autosave

/-! ### Edits and calls of a run -/

def Event.edit? : Event → Option (Canvas × Nat)
  | .edit next now => some (next, now)
  | _ => none

/-- The canvas of the last edit, and when that was. -/
def lastEdit? (events : List Event) : Option (Canvas × Nat) :=
  (events.filterMap Event.edit?).getLast?

/-- The calls that an event comes to: saving at once is a poll and, if that hands out a
snapshot, the report of how it was persisted. -/
def calls (a : Autosave) : Event → List Event
  | .runPending now persist =>
    if a.isDue now then [.poll now, .complete (persist a.draft)] else [.poll now]
  | event => [event]

def callsOf (a : Autosave) : List Event → List Event
  | [] => []
  | event :: rest => a.calls event ++ (a.after event).callsOf rest

namespace Event

def IsCall : Event → Prop
  | .runPending _ _ => False
  | _ => True

/-- The call ends the attempt in flight or drops it. -/
def Settles : Event → Prop
  | .complete _ | .reset _ => True
  | _ => False

end Event

/-- The snapshot that a call hands out. -/
def handedOut? (a : Autosave) : Event → Option Canvas
  | .poll now => (a.poll now).1
  | .saveNow => a.saveNow.1
  | _ => none

theorem Event.eq_edit_of_edit? {event : Event} {edit : Canvas × Nat}
    (h : event.edit? = some edit) : event = .edit edit.1 edit.2 := by
  cases event <;> cases h
  rfl

theorem lastEdit?_concat (events : List Event) (event : Event) :
    lastEdit? (events ++ [event]) = event.edit?.or (lastEdit? events) := by
  unfold lastEdit?
  rw [List.filterMap_append]
  cases h : event.edit? <;> simp [h]

section

variable (a : Autosave)

theorem run_append (earlier later : List Event) :
    a.run (earlier ++ later) = (a.run earlier).run later :=
  List.foldl_append

theorem snd_poll (now : Nat) : (a.poll now).2 = if a.isDue now then a.beginSave.2 else a := by
  unfold poll
  split <;> rfl

theorem after_runPending (now : Nat) (persist : Canvas → Except String Unit) :
    a.after (.runPending now persist) =
      if a.isDue now then a.beginSave.2.complete (persist a.draft) else a := by
  change (a.runPending now id (fun canvas () => persist canvas) ()).2.1 = _
  cases due : a.isDue now with
  | false =>
    rw [runPending_of_not_due due]
    rfl
  | true =>
    cases saved : persist a.draft with
    | ok u =>
      have persisted : (fun canvas () => persist canvas) a.draft () = .ok u := saved
      rw [runPending_of_ok due persisted]
      rfl
    | error message =>
      have refused : (fun canvas () => persist canvas) a.draft () = .error message := saved
      rw [runPending_of_error due refused]
      rfl

theorem run_calls (event : Event) : a.run (a.calls event) = a.after event := by
  cases event with
  | runPending now persist =>
    rw [after_runPending, calls]
    split <;> rename_i due <;> simp [run, after, snd_poll, due]
  | _ => rfl

theorem run_callsOf (events : List Event) : a.run (a.callsOf events) = a.run events := by
  induction events generalizing a with
  | nil => rfl
  | cons event rest ih =>
    unfold callsOf
    rw [run_append, run_calls, ih]
    rfl

theorem isCall_of_mem_calls {event call : Event} (h : call ∈ a.calls event) : call.IsCall := by
  cases event with
  | runPending now persist =>
    rw [calls] at h
    split at h
    · rcases List.mem_pair.mp h with rfl | rfl <;> trivial
    · obtain rfl := List.mem_singleton.mp h
      trivial
  | _ =>
    obtain rfl := List.mem_singleton.mp h
    trivial

theorem isCall_of_mem_callsOf {events : List Event} {call : Event}
    (h : call ∈ a.callsOf events) : call.IsCall := by
  induction events generalizing a with
  | nil => cases h
  | cons event rest ih =>
    rcases List.mem_append.mp h with now | later
    · exact a.isCall_of_mem_calls now
    · exact ih _ later

end

variable {a : Autosave}

/-! ### One snapshot at a time -/

theorem inFlight_of_handedOut? {call : Event} (h : (a.handedOut? call).isSome = true) :
    a.inFlight = none ∧ (a.after call).inFlight.isSome = true := by
  have taken {result : Option Canvas × Autosave} (hands : a.HandsOut result)
      (given : result.1.isSome = true) : a.inFlight = none ∧ result.2.inFlight.isSome = true := by
    rcases hands with rfl | ⟨idle, same, -⟩
    · cases given
    · exact ⟨idle, same ▸ given⟩
  cases call with
  | poll now => exact taken (a.handsOut_poll now) h
  | saveNow => exact taken a.handsOut_saveNow h
  | _ => cases h

theorem isSome_inFlight_after {call : Event} (known : call.IsCall) (unsettled : ¬ call.Settles)
    (h : a.inFlight.isSome = true) : (a.after call).inFlight.isSome = true := by
  have kept {result : Option Canvas × Autosave} (hands : a.HandsOut result) :
      result.2.inFlight.isSome = true := by
    rcases hands with rfl | ⟨idle, -, -⟩
    · exact h
    · rw [idle] at h
      cases h
  cases call with
  | edit next now =>
    rw [after, edit_inFlight]
    exact h
  | poll now => exact kept (a.handsOut_poll now)
  | saveNow => exact kept a.handsOut_saveNow
  | complete outcome => exact absurd trivial unsettled
  | runPending now persist => cases known
  | reset canvas => exact absurd trivial unsettled

theorem isSome_inFlight_run {events : List Event} (known : ∀ call ∈ events, call.IsCall)
    (unsettled : ∀ call ∈ events, ¬ call.Settles) (h : a.inFlight.isSome = true) :
    (a.run events).inFlight.isSome = true := by
  induction events generalizing a with
  | nil => exact h
  | cons call rest ih =>
    rw [List.forall_mem_cons] at known unsettled
    exact ih known.2 unsettled.2 (isSome_inFlight_after known.1 unsettled.1 h)

/-- Among the calls of a run there is a report or a reset between any two that hand out a
snapshot. -/
theorem exists_settles_between (a : Autosave) {events earlier between later : List Event}
    {first second : Event}
    (split : a.callsOf events = earlier ++ first :: (between ++ second :: later))
    (handed : ((a.run earlier).handedOut? first).isSome = true)
    (handed' : ((a.run (earlier ++ first :: between)).handedOut? second).isSome = true) :
    ∃ call ∈ between, call.Settles := by
  have known : ∀ call ∈ between, call.IsCall := by
    intro call hc
    have made : call ∈ a.callsOf events := by
      rw [split]
      simp [hc]
    exact isCall_of_mem_callsOf a made
  by_contra unsettled
  have saving := isSome_inFlight_run known
    (fun call hc settles => unsettled ⟨call, hc, settles⟩) (inFlight_of_handedOut? handed).2
  have idle := (inFlight_of_handedOut? handed').1
  have whole : a.run (earlier ++ first :: between) =
      ((a.run earlier).after first).run between :=
    run_append a earlier (first :: between)
  rw [← whole, idle] at saving
  cases saving

/-! ### What stops the timer -/

/-- What comes after something that was no edit: the timer is stopped, or it runs on for the
same draft. -/
structure Rests (a next : Autosave) : Prop where
  quietPeriod : next.quietPeriod = a.quietPeriod
  deadline : next.deadline = none ∨ next.deadline = a.deadline ∧ next.draft = a.draft

theorem Rests.refl (a : Autosave) : a.Rests a :=
  ⟨rfl, .inr ⟨rfl, rfl⟩⟩

theorem Rests.trans {b c : Autosave} (h : a.Rests b) (h' : b.Rests c) : a.Rests c := by
  refine ⟨h'.quietPeriod.trans h.quietPeriod, ?_⟩
  rcases h'.deadline with stopped | ⟨same, draft⟩
  · exact .inl stopped
  · rw [same, draft]
    exact h.deadline

theorem rests_beginSave (a : Autosave) : a.Rests a.beginSave.2 :=
  ⟨rfl, .inl rfl⟩

theorem rests_poll (a : Autosave) (now : Nat) : a.Rests (a.poll now).2 := by
  rw [snd_poll]
  split
  · exact rests_beginSave a
  · exact .refl a

theorem rests_saveNow (a : Autosave) : a.Rests a.saveNow.2 := by
  unfold saveNow
  split
  · exact .refl a
  · exact ⟨rfl, .inl rfl⟩

theorem rests_complete (a : Autosave) (outcome : Except String Unit) :
    a.Rests (a.complete outcome) := by
  unfold complete
  split
  · exact .refl a
  · split
    · split
      · exact ⟨rfl, .inl rfl⟩
      · exact ⟨rfl, .inr ⟨rfl, rfl⟩⟩
    · exact ⟨rfl, .inl rfl⟩

theorem rests_after {event : Event} (h : event.edit? = none) : a.Rests (a.after event) := by
  cases event with
  | edit next now => cases h
  | poll now => exact rests_poll a now
  | saveNow => exact rests_saveNow a
  | complete outcome => exact rests_complete a outcome
  | runPending now persist =>
    rw [after_runPending]
    split
    · exact (rests_beginSave a).trans (rests_complete _ _)
    · exact .refl a
  | reset canvas => exact ⟨rfl, .inl rfl⟩

/-! ### Deadlines -/

/-- The deadline, if there is one, is that of the last edit, which made the draft. -/
def Timed (a : Autosave) (events : List Event) : Prop :=
  ∀ deadline ∈ a.deadline, ∃ edited, lastEdit? events = some (a.draft, edited) ∧
    deadline = edited + a.quietPeriod

theorem quietPeriod_edit (a : Autosave) (next : Canvas) (now : Nat) :
    (a.edit next now).quietPeriod = a.quietPeriod := by
  unfold edit
  split
  · rfl
  · split <;> rfl

theorem draft_edit (a : Autosave) (next : Canvas) (now : Nat) :
    (a.edit next now).draft = next := by
  unfold edit
  split
  · rfl
  · split <;> rfl

theorem deadline_edit (a : Autosave) (next : Canvas) (now : Nat) :
    ∀ deadline ∈ (a.edit next now).deadline, deadline = now + a.quietPeriod := by
  intro deadline armed
  unfold edit at armed
  split at armed
  · dsimp only at armed
    split at armed <;> cases armed
    rfl
  · split at armed <;> cases armed
    rfl

theorem quietPeriod_after (a : Autosave) (event : Event) :
    (a.after event).quietPeriod = a.quietPeriod := by
  cases h : event.edit? with
  | none => exact (rests_after h).quietPeriod
  | some edit =>
    rw [Event.eq_edit_of_edit? h]
    exact quietPeriod_edit a edit.1 edit.2

theorem quietPeriod_run (a : Autosave) (events : List Event) :
    (a.run events).quietPeriod = a.quietPeriod := by
  induction events generalizing a with
  | nil => rfl
  | cons event rest ih => exact (ih _).trans (quietPeriod_after a event)

theorem Timed.after {earlier : List Event} (h : a.Timed earlier) (event : Event) :
    (a.after event).Timed (earlier ++ [event]) := by
  intro deadline armed
  rw [lastEdit?_concat, quietPeriod_after]
  cases he : event.edit? with
  | some edit =>
    rw [Event.eq_edit_of_edit? he] at armed ⊢
    exact ⟨edit.2, by rw [Autosave.after, draft_edit]; rfl,
      deadline_edit a edit.1 edit.2 deadline armed⟩
  | none =>
    rcases (rests_after he).deadline with stopped | ⟨same, draft⟩
    · rw [stopped] at armed
      cases armed
    · rw [draft]
      exact h deadline (same ▸ armed)

theorem Timed.run {earlier : List Event} (h : a.Timed earlier) (events : List Event) :
    (a.run events).Timed (earlier ++ events) := by
  induction events generalizing a earlier with
  | nil =>
    rw [List.append_nil]
    exact h
  | cons event rest ih =>
    rw [List.append_cons]
    exact ih (h.after event)

theorem timed_run_start (persisted : Canvas) (quietPeriod : Nat) (events : List Event) :
    ((start persisted quietPeriod).run events).Timed events := by
  have unarmed : (start persisted quietPeriod).Timed [] := by
    intro deadline armed
    cases armed
  exact unarmed.run events

/-! ### Polls -/

theorem isDue_iff (a : Autosave) (now : Nat) : a.isDue now = true ↔
    a.inFlight = none ∧ a.state = .dirty ∧ ∃ deadline ∈ a.deadline, deadline ≤ now := by
  simp [isDue, isSaving, and_assoc, Option.any_eq_true]

theorem fst_poll (a : Autosave) (now : Nat) :
    (a.poll now).1 = if a.isDue now then some a.draft else none := by
  unfold poll
  split <;> rfl

/-- In a dirty state a poll is due from the quiet period after the last edit on. -/
theorem Consistent.isDue_iff_of_dirty (h : a.Consistent) {events : List Event}
    (timed : a.Timed events) (dirty : a.state = .dirty) :
    ∃ edited, lastEdit? events = some (a.draft, edited) ∧
      ∀ now, a.isDue now = true ↔ edited + a.quietPeriod ≤ now := by
  obtain ⟨deadline, armed⟩ := Option.isSome_iff_exists.mp (h.dirty dirty).1
  obtain ⟨edited, last, rfl⟩ := timed deadline armed
  have idle : a.inFlight = none := by
    cases hf : a.inFlight with
    | none => rfl
    | some snapshot =>
      have saving := h.saving_iff.mpr (by simp [hf])
      cases dirty.symm.trans saving
  refine ⟨edited, last, fun now => ?_⟩
  simp [isDue_iff, idle, dirty, armed]

/-- A poll hands out the canvas of the last edit just if that is not persisted and has rested
for the quiet period; and between two snapshots some attempt is reported or dropped. -/
theorem debounced_run (persisted : Canvas) (quietPeriod : Nat) (events : List Event) :
    let fresh := start persisted quietPeriod
    let a := fresh.run events
    (∀ now snapshot, (a.poll now).1 = some snapshot →
      (∃ edited, lastEdit? events = some (snapshot, edited) ∧ edited + quietPeriod ≤ now) ∧
        snapshot.equivalent a.persisted = false ∧ a.inFlight = none) ∧
      (a.state = .dirty → ∃ next edited, lastEdit? events = some (next, edited) ∧
        ∀ now, (edited + quietPeriod ≤ now → (a.poll now).1 = some next) ∧
          (now < edited + quietPeriod → (a.poll now).1 = none)) ∧
      fresh.run (fresh.callsOf events) = a ∧
      ∀ earlier first between second later,
        fresh.callsOf events = earlier ++ first :: (between ++ second :: later) →
        ((fresh.run earlier).handedOut? first).isSome = true →
        ((fresh.run (earlier ++ first :: between)).handedOut? second).isSome = true →
          ∃ call ∈ between, call.Settles := by
  intro fresh a
  have consistent : a.Consistent := (consistent_start persisted quietPeriod).run events
  have timed : a.Timed events := timed_run_start persisted quietPeriod events
  have period : a.quietPeriod = quietPeriod := quietPeriod_run fresh events
  refine ⟨?_, ?_, run_callsOf fresh events, ?_⟩
  · intro now snapshot handed
    rw [fst_poll] at handed
    split at handed
    · rename_i due
      cases handed
      obtain ⟨idle, dirty, -⟩ := (isDue_iff a now).mp due
      obtain ⟨edited, last, rested⟩ := consistent.isDue_iff_of_dirty timed dirty
      exact ⟨⟨edited, last, period ▸ (rested now).mp due⟩, (consistent.dirty dirty).2, idle⟩
    · cases handed
  · intro dirty
    obtain ⟨edited, last, rested⟩ := consistent.isDue_iff_of_dirty timed dirty
    rw [period] at rested
    refine ⟨a.draft, edited, last, fun now => ⟨fun past => ?_, fun early => ?_⟩⟩
    · rw [fst_poll, if_pos ((rested now).mpr past)]
    · rw [fst_poll, if_neg fun due => by have := (rested now).mp due; omega]
  · exact fun earlier first between second later => fresh.exists_settles_between

/-- The second edit is made while the first one is being saved, and is itself saved at once
when it has rested. -/
theorem debounced_run_edit_during_save :
    let first : Canvas := ⟨[], some "first"⟩
    let second : Canvas := ⟨[], some "second"⟩
    let fresh := start .empty 5
    let events : List Event := [.edit first 0, .poll 5, .edit second 7, .complete (.ok ())]
    let a := fresh.run events
    let later : List Event := events ++ [.runPending 12 fun _ => .ok ()]
    a.state = .dirty ∧ lastEdit? events = some (second, 7) ∧ (a.poll 11).1 = none ∧
      (a.poll 12).1 = some second ∧ second.equivalent a.persisted = false ∧
      (fresh.run later).persisted = second ∧
      fresh.callsOf later = events ++ [.poll 12, .complete (.ok ())] ∧
      ∃ call ∈ [Event.edit second 7, .complete (.ok ())], call.Settles := by
  intro first second fresh events a later
  have dirty : a.state = .dirty := by decide
  have last : lastEdit? events = some (second, 7) := rfl
  have calls : fresh.callsOf later = events ++ [.poll 12, .complete (.ok ())] := rfl
  obtain ⟨handed, waiting, -, -⟩ := debounced_run .empty 5 events
  obtain ⟨next, edited, made, polls⟩ := waiting dirty
  cases last.symm.trans made
  have due := (polls 12).1 (by decide)
  refine ⟨dirty, last, (polls 11).2 (by decide), due, (handed 12 second due).2.1, by decide,
    calls, ?_⟩
  exact (debounced_run .empty 5 later).2.2.2 [.edit first 0] (.poll 5)
    [.edit second 7, .complete (.ok ())] (.poll 12) [.complete (.ok ())] calls (by decide)
    (by decide)

end PageBuilder.Autosave

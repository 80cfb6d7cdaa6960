import PageBuilder.Proofs.Canvas.Autosave
/-! Whose outcome a report is taken for. A report does not say which attempt has
ended and is taken for the snapshot in flight. A reset drops an attempt without ending
it, so its outcome may arrive when a newer snapshot has been handed out. -/
namespace PageBuilder.Autosave

/-- A snapshot that was handed out. -/
structure Attempt where
  snapshot : Canvas
  /-- Its own outcome, once that is reported. -/
  outcome : Option (Except String Unit)
  /-- Whether a reset came before the outcome. -/
  dropped : Bool

namespace Attempt

def drop (t : Attempt) : Attempt :=
  if t.outcome.isNone then { t with dropped := true } else t

def Awaited (t : Attempt) : Prop :=
  t.outcome = none ∧ t.dropped = false

theorem not_awaited_drop (t : Attempt) : ¬ t.drop.Awaited := by
  unfold drop Awaited
  split <;> simp_all

end Attempt

/-- An autosave with the attempts that it handed out, in order. -/
structure Ledger where
  machine : Autosave
  attempts : List Attempt

inductive Move where
  | edit (next : Canvas) (now : Nat)
  | poll (now : Nat)
  | saveNow
  | reset (canvas : Canvas)
  /-- The outcome of attempt `n` is passed on. -/
  | report (n : Nat) (outcome : Except String Unit)

namespace Ledger

def start (persisted : Canvas) (quietPeriod : Nat) : Ledger :=
  ⟨Autosave.start persisted quietPeriod, []⟩

def handOut (l : Ledger) : Option Canvas × Autosave → Ledger
  | (none, a) => { l with machine := a }
  | (some snapshot, a) => ⟨a, l.attempts ++ [⟨snapshot, none, false⟩]⟩

def after (l : Ledger) : Move → Ledger
  | .edit next now => { l with machine := l.machine.edit next now }
  | .poll now => l.handOut (l.machine.poll now)
  | .saveNow => l.handOut l.machine.saveNow
  | .reset canvas => ⟨l.machine.reset canvas, l.attempts.map Attempt.drop⟩
  | .report n outcome =>
    ⟨l.machine.complete outcome, l.attempts.modify n fun t => { t with outcome := some outcome }⟩

/-- Every move of a run is as `P` asks, seen from where it is made. -/
def Throughout (P : Ledger → Move → Prop) (l : Ledger) : List Move → Prop
  | [] => True
  | move :: rest => P l move ∧ Throughout P (l.after move) rest

/-- Outcomes are reported once, of attempts that were made. -/
def Permitted (l : Ledger) : Move → Prop
  | .report n _ => ∃ t, l.attempts[n]? = some t ∧ t.outcome = none
  | _ => True

/-- Nothing is persisted but by an attempt that ended well, or by a reset, and an
attempt that was dropped has no effect when it ends. -/
structure Faithful (l : Ledger) (move : Move) : Prop where
  persisted : (∀ canvas, move ≠ .reset canvas) →
    (l.after move).machine.persisted = l.machine.persisted ∨
      ∃ t ∈ (l.after move).attempts,
        t.outcome = some (.ok ()) ∧ t.snapshot = (l.after move).machine.persisted
  dropped : ∀ n outcome t, move = .report n outcome → l.attempts[n]? = some t →
    t.dropped = true → (l.after move).machine = l.machine

/-- A dropped attempt is reported only while nothing is in flight. -/
def Uncrossed (l : Ledger) : Move → Prop
  | .report n _ => ∀ t, l.attempts[n]? = some t → t.dropped = true → l.machine.inFlight = none
  | _ => True

/-- At most one attempt is awaited, and its snapshot is the one in flight. -/
structure Matched (l : Ledger) : Prop where
  inFlight : ∀ t ∈ l.attempts, t.Awaited → l.machine.inFlight = some t.snapshot
  unique : ∀ (n m : Nat) (t u : Attempt), l.attempts[n]? = some t → l.attempts[m]? = some u →
    t.Awaited → u.Awaited → n = m

end Ledger

/-! ### What is handed out -/

section

variable (a : Autosave)

/-- What `poll` and `saveNow` have in common. -/
def HandsOut (result : Option Canvas × Autosave) : Prop :=
  result = (none, a) ∨ a.inFlight = none ∧ result.2.inFlight = result.1 ∧
    result.2.persisted = a.persisted

theorem handsOut_poll (now : Nat) : a.HandsOut (a.poll now) := by
  unfold poll
  split
  · rename_i h
    refine .inr ⟨?_, rfl, rfl⟩
    simp only [isDue, isSaving, Bool.and_eq_true, Bool.not_eq_true', Option.isSome_eq_false_iff,
      Option.isNone_iff_eq_none] at h
    exact h.1.1
  · exact .inl rfl

theorem handsOut_saveNow : a.HandsOut a.saveNow := by
  unfold saveNow
  split
  · exact .inl rfl
  · rename_i h
    exact .inr ⟨by simpa [isSaving] using h, rfl, rfl⟩

end

/-! ### One move -/

namespace Ledger

variable {l : Ledger}

theorem matched_of_none_awaited (h : ∀ t ∈ l.attempts, ¬ t.Awaited) : l.Matched where
  inFlight t ht awaited := absurd awaited (h t ht)
  unique _ _ t _ ht _ awaited := absurd awaited (h t (List.mem_of_getElem? ht))

theorem Matched.not_awaited (h : l.Matched) (idle : l.machine.inFlight = none) :
    ∀ t ∈ l.attempts, ¬ t.Awaited := by
  intro t ht awaited
  have := h.inFlight t ht awaited
  simp [idle] at this

theorem Matched.handOut (h : l.Matched) {result : Option Canvas × Autosave}
    (hr : l.machine.HandsOut result) : (l.handOut result).Matched := by
  rcases hr with rfl | ⟨idle, same, -⟩
  · exact h
  · have settled := h.not_awaited idle
    rcases result with ⟨_ | snapshot, a⟩
    · exact matched_of_none_awaited settled
    · have last : ∀ n t, (l.attempts ++ [⟨snapshot, none, false⟩])[n]? = some t → t.Awaited →
          n = l.attempts.length ∧ t.snapshot = snapshot := by
        intro n t ht awaited
        rw [List.getElem?_append] at ht
        split at ht
        · exact absurd awaited (settled t (List.mem_of_getElem? ht))
        · obtain ⟨hn, rfl⟩ := List.getElem?_eq_some_iff.mp ht
          simp only [List.length_singleton] at hn
          exact ⟨by omega, by simp⟩
      constructor
      · intro t ht awaited
        obtain ⟨n, hn⟩ := List.mem_iff_getElem?.mp ht
        rw [(last n t hn awaited).2]
        exact same
      · intro n m t u ht hu awaited awaited'
        rw [(last n t ht awaited).1, (last m u hu awaited').1]

theorem Matched.report (h : l.Matched) {n : Nat} {outcome : Except String Unit}
    (hp : l.Permitted (.report n outcome)) (hu : l.Uncrossed (.report n outcome)) :
    (l.after (.report n outcome)).Matched := by
  obtain ⟨t, ht, pending⟩ := hp
  apply matched_of_none_awaited
  intro u hmem awaited
  obtain ⟨m, hm⟩ := List.mem_iff_getElem?.mp hmem
  simp only [after, List.getElem?_modify] at hm
  obtain ⟨v, hv, rfl⟩ := Option.map_eq_some_iff.mp hm
  by_cases hnm : n = m
  · simp [hnm, Attempt.Awaited] at awaited
  · rw [if_neg hnm] at awaited
    have inFlight := h.inFlight v (List.mem_of_getElem? hv) awaited
    -- the one awaited is either reported here, or comes across a dropped one
    cases hd : t.dropped with
    | true =>
      have idle := hu t ht hd
      simp [idle] at inFlight
    | false => exact hnm (h.unique n m t v ht hv ⟨pending, hd⟩ awaited)

theorem Matched.after (h : l.Matched) {move : Move} (hp : l.Permitted move)
    (hu : l.Uncrossed move) : (l.after move).Matched := by
  cases move with
  | edit next now => exact ⟨by simpa [Ledger.after] using h.inFlight, h.unique⟩
  | poll now => exact h.handOut (handsOut_poll l.machine now)
  | saveNow => exact h.handOut (handsOut_saveNow l.machine)
  | reset canvas =>
    apply matched_of_none_awaited
    intro t ht
    obtain ⟨u, -, rfl⟩ := List.mem_map.mp ht
    exact u.not_awaited_drop
  | report n outcome => exact h.report hp hu

theorem handOut_persisted {result : Option Canvas × Autosave} (hr : l.machine.HandsOut result) :
    (l.handOut result).machine.persisted = l.machine.persisted := by
  rcases hr with rfl | ⟨-, -, same⟩
  · rfl
  · rcases result with ⟨_ | snapshot, a⟩ <;> exact same

theorem Matched.faithful_report (h : l.Matched) {n : Nat} {outcome : Except String Unit}
    (hp : l.Permitted (.report n outcome)) (hu : l.Uncrossed (.report n outcome)) :
    l.Faithful (.report n outcome) := by
  obtain ⟨t, ht, pending⟩ := hp
  constructor
  · intro _
    rcases complete_persisted l.machine outcome with same | ⟨rfl, saved⟩
    · exact .inl same
    · right
      have hd : t.dropped = false := by
        cases hd : t.dropped with
        | true => simp [hu t ht hd] at saved
        | false => rfl
      have inFlight := h.inFlight t (List.mem_of_getElem? ht) ⟨pending, hd⟩
      refine ⟨{ t with outcome := some (.ok ()) }, ?_, rfl, ?_⟩
      · apply List.mem_of_getElem? (i := n)
        simp [Ledger.after, ht]
      · rw [inFlight] at saved
        exact Option.some.inj saved
  · rintro m other u ⟨⟩ hu' hd
    exact complete_of_idle (hu u hu' hd) outcome

/-- A report that comes across another attempt takes its snapshot out of flight. -/
theorem Faithful.uncrossed {move : Move} (h : l.Faithful move) : l.Uncrossed move := by
  cases move with
  | report n outcome =>
    intro t ht hd
    have same : l.machine.complete outcome = l.machine := h.dropped n outcome t rfl ht hd
    rw [← same]
    exact complete_inFlight l.machine outcome
  | _ => trivial

theorem Matched.faithful_iff (h : l.Matched) {move : Move} (hp : l.Permitted move) :
    l.Faithful move ↔ l.Uncrossed move := by
  refine ⟨Faithful.uncrossed, fun hu => ?_⟩
  cases move with
  | edit next now => exact ⟨fun _ => .inl (edit_persisted _ _ _), by simp⟩
  | poll now => exact ⟨fun _ => .inl (handOut_persisted (handsOut_poll _ _)), by simp⟩
  | saveNow => exact ⟨fun _ => .inl (handOut_persisted (handsOut_saveNow _)), by simp⟩
  | reset canvas => exact ⟨fun h => absurd rfl (h canvas), by simp⟩
  | report n outcome => exact h.faithful_report hp hu

/-! ### Runs -/

theorem Matched.throughout_faithful_iff (h : l.Matched) {moves : List Move}
    (hp : l.Throughout Permitted moves) :
    l.Throughout Faithful moves ↔ l.Throughout Uncrossed moves := by
  induction moves generalizing l with
  | nil => exact Iff.rfl
  | cons move rest ih =>
    obtain ⟨permitted, later⟩ := hp
    constructor
    · intro ⟨faithful, hr⟩
      have uncrossed := faithful.uncrossed
      exact ⟨uncrossed, (ih (h.after permitted uncrossed) later).mp hr⟩
    · intro ⟨uncrossed, hr⟩
      exact ⟨(h.faithful_iff permitted).mpr uncrossed,
        (ih (h.after permitted uncrossed) later).mpr hr⟩

/-- Outcomes are taken for the right attempts just in the runs where no dropped attempt
is reported while a newer one is in flight. -/
theorem throughout_faithful_start (persisted : Canvas) (quietPeriod : Nat) {moves : List Move}
    (hp : (start persisted quietPeriod).Throughout Permitted moves) :
    (start persisted quietPeriod).Throughout Faithful moves ↔
      (start persisted quietPeriod).Throughout Uncrossed moves :=
  Matched.throughout_faithful_iff (matched_of_none_awaited (by simp [start])) hp

/-- The dropped attempt is reported before the newer one begins. -/
theorem faithful_early_report :
    let l := start .empty 5
    let moves : List Move := [.edit ⟨[], "first"⟩ 0, .poll 5, .reset .empty, .report 0 (.ok ()),
      .edit ⟨[], "second"⟩ 10, .poll 15, .report 1 (.ok ())]
    l.Throughout Permitted moves ∧ l.Throughout Faithful moves := by
  intro l moves
  have permitted : l.Throughout Permitted moves :=
    ⟨trivial, trivial, trivial, ⟨_, rfl, rfl⟩, trivial, trivial, ⟨_, rfl, rfl⟩, trivial⟩
  refine ⟨permitted, (throughout_faithful_start .empty 5 permitted).mpr ?_⟩
  refine ⟨trivial, trivial, trivial, fun _ _ _ => rfl, trivial, trivial, ?_, trivial⟩
  rintro t ⟨⟩ ⟨⟩

/-- The dropped attempt is reported after the newer one began, and ends well: what the
newer one failed to persist is taken to be persisted. -/
theorem not_faithful_late_report :
    let l := start .empty 5
    let moves : List Move := [.edit ⟨[], "first"⟩ 0, .poll 5, .reset .empty,
      .edit ⟨[], "second"⟩ 10, .poll 15, .report 0 (.ok ()), .report 1 (.error "disk full")]
    let last := moves.foldl after l
    l.Throughout Permitted moves ∧ ¬ l.Throughout Faithful moves ∧
      last.attempts[1]? = some ⟨⟨[], "second"⟩, some (.error "disk full"), false⟩ ∧
      last.machine.persisted = ⟨[], "second"⟩ ∧ last.machine.state = .clean := by
  intro l moves last
  refine ⟨⟨trivial, trivial, trivial, trivial, trivial, ⟨_, rfl, rfl⟩, ⟨_, rfl, rfl⟩, trivial⟩,
    ?_, rfl, rfl, rfl⟩
  intro ⟨_, _, _, _, _, faithful, _⟩
  have same := faithful.dropped 0 (.ok ()) _ rfl rfl rfl
  exact absurd (congrArg Autosave.inFlight same) (by decide)

end Ledger

end PageBuilder.Autosave

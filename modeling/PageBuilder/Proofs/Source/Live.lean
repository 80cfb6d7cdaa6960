import Mathlib.Data.List.Nodup
import PageBuilder.Source.Live
/-! What a cache of live data holds, told by its history. A ticket counts until its source
is begun again or forgotten; an entry shows the results that were taken since its source was
forgotten last. Tickets are numbered over all sources, so one from before a source was
forgotten never has the number of a later one. -/
namespace PageBuilder

open Json (Value)

def FetchOutcome.error? : FetchOutcome → Option String
  | .success _ _ => none
  | .failure error _ => some error

namespace LiveCache

/-- What happened to a cache, and what its callers were told. -/
inductive Past where
  | begun (ticket : Ticket)
  | ended (ticket : Ticket) (outcome : FetchOutcome) (taken : Bool)
  | forgotten (sourceId : String)

namespace Past

def sourceId : Past → String
  | .begun ticket => ticket.sourceId
  | .ended ticket _ _ => ticket.sourceId
  | .forgotten sourceId => sourceId

def ticket? : Past → Option Ticket
  | .begun ticket => some ticket
  | _ => none

def begins (sourceId : String) : Past → Bool
  | .begun ticket => ticket.sourceId = sourceId
  | _ => false

def forgets (sourceId : String) : Past → Bool
  | .forgotten id => id = sourceId
  | _ => false

/-- The result, if the cache took it for the source. -/
def taken? (sourceId : String) : Past → Option FetchOutcome
  | .ended ticket outcome true => if ticket.sourceId = sourceId then some outcome else none
  | _ => none

section

variable (sourceId : String) (ticket : Ticket) (outcome : FetchOutcome) (taken : Bool)

@[simp] theorem begins_begun : (begun ticket).begins ticket.sourceId = true := by
  simp [begins]

@[simp] theorem begins_ended : (ended ticket outcome taken).begins sourceId = false := rfl

@[simp] theorem forgets_begun : (begun ticket).forgets sourceId = false := rfl

@[simp] theorem forgets_ended : (ended ticket outcome taken).forgets sourceId = false := rfl

@[simp] theorem forgets_forgotten : (forgotten sourceId).forgets sourceId = true := by
  simp [forgets]

@[simp] theorem taken?_begun : (begun ticket).taken? sourceId = none := rfl

@[simp] theorem taken?_refused : (ended ticket outcome false).taken? sourceId = none := rfl

@[simp] theorem taken?_taken : (ended ticket outcome true).taken? ticket.sourceId =
    some outcome := by
  simp [taken?]

end

end Past

/-! ### Reading a history, the newest first -/

section

variable (sourceId : String) (history : List Past)

/-- All tickets in the order they were issued. -/
def tickets : List Ticket :=
  (history.filterMap Past.ticket?).reverse

def sinceForgotten : List Past :=
  history.takeWhile fun e => !e.forgets sourceId

def sinceBegun : List Past :=
  history.takeWhile fun e => !e.begins sourceId

/-- The results that were taken for a source, the last one first. -/
def taken : List FetchOutcome :=
  history.filterMap (Past.taken? sourceId)

def lastData? : Option Value :=
  (taken sourceId (sinceForgotten sourceId history)).findSome? FetchOutcome.data?

def lastError? : Option String :=
  (taken sourceId (sinceForgotten sourceId history)).head?.bind FetchOutcome.error?

end

/-! ### Runs -/

/-- A cache beside its history. -/
structure Journal where
  cache : LiveCache
  history : List Past

inductive Event where
  | begin (sourceId : String)
  /-- A result comes in for ticket `n`, counted from 0; if none has that number, nothing happens. -/
  | complete (n : Nat) (outcome : FetchOutcome)
  | forget (sourceId : String)
  | refresh (sourceId : String) (transport : HttpRequest → Reply) (request : FetchRequest)

/-- The source that an event is about. -/
def Event.sourceId? (history : List Past) : Event → Option String
  | .begin sourceId => some sourceId
  | .complete n _ => (tickets history)[n]?.map Ticket.sourceId
  | .forget sourceId => some sourceId
  | .refresh sourceId _ _ => some sourceId

namespace Journal

def start : Journal := ⟨.empty, []⟩

section

variable (j : Journal)

def begin (sourceId : String) : Journal :=
  ⟨(j.cache.begin sourceId).2, .begun (j.cache.begin sourceId).1 :: j.history⟩

def complete (ticket : Ticket) (outcome : FetchOutcome) : Journal :=
  ⟨(j.cache.complete ticket outcome).2,
    .ended ticket outcome (j.cache.complete ticket outcome).1 :: j.history⟩

def forget (sourceId : String) : Journal :=
  ⟨j.cache.forget sourceId, .forgotten sourceId :: j.history⟩

/-- A refresh counts as a fetch that is begun and completed. -/
def after : Event → Journal
  | .begin sourceId => j.begin sourceId
  | .complete n outcome =>
    match (tickets j.history)[n]? with
    | some ticket => j.complete ticket outcome
    | none => j
  | .forget sourceId => j.forget sourceId
  | .refresh sourceId transport request =>
    ⟨j.cache.refresh sourceId transport request,
      ((j.begin sourceId).complete (j.cache.begin sourceId).1 (fetch transport request)).history⟩

def run (events : List Event) : Journal :=
  events.foldl after j

end

/-- What the history says of tickets and entries. -/
structure Told (j : Journal) : Prop where
  /-- A ticket counts just while its source is not begun again nor forgotten. -/
  counts : ∀ later ticket earlier, j.history = later ++ .begun ticket :: earlier → ∀ outcome,
    ((j.cache.complete ticket outcome).1 = true ↔
      ∀ e ∈ later, e.begins ticket.sourceId = false ∧ e.forgets ticket.sourceId = false)
  refused : ∀ ticket outcome, (j.cache.complete ticket outcome).1 = false →
    (j.cache.complete ticket outcome).2 = j.cache
  distinct : (tickets j.history).Nodup
  absent : ∀ sourceId, j.cache.entry? sourceId = none ↔
    ∀ e ∈ sinceForgotten sourceId j.history, e.begins sourceId = false
  data : ∀ sourceId entry, j.cache.entry? sourceId = some entry →
    entry.data = lastData? sourceId j.history
  error : ∀ sourceId entry, j.cache.entry? sourceId = some entry →
    entry.error = lastError? sourceId j.history
  loading : ∀ sourceId entry, j.cache.entry? sourceId = some entry →
    (entry.loading = true ↔ taken sourceId (sinceBegun sourceId j.history) = [])
  elsewhere : ∀ event sourceId, event.sourceId? j.history ≠ some sourceId →
    LiveCache.entry? (j.after event).cache sourceId = j.cache.entry? sourceId
  /-- The counter has reached the number of fetches begun, and no more. -/
  issued : j.cache.issued = (tickets j.history).length

end Journal

/-! ### The entry that a history leads to -/

/-- The ticket of the newest fetch of a source since that was forgotten last. -/
def current? (sourceId : String) : List Past → Option Ticket
  | [] => none
  | .begun ticket :: older =>
    if ticket.sourceId = sourceId then some ticket else current? sourceId older
  | .ended _ _ _ :: older => current? sourceId older
  | .forgotten id :: older => if id = sourceId then none else current? sourceId older

def expected? (sourceId : String) (history : List Past) : Option LiveEntry :=
  (current? sourceId history).map fun ticket => {
    data := lastData? sourceId history
    loading := (taken sourceId (sinceBegun sourceId history)).isEmpty
    error := lastError? sourceId history
    generation := ticket.generation }

section

variable {sourceId : String} {history : List Past}

theorem current?_eq_none_iff : current? sourceId history = none ↔
    ∀ e ∈ sinceForgotten sourceId history, e.begins sourceId = false := by
  induction history with
  | nil => simp [current?, sinceForgotten]
  | cons e older ih =>
    cases e with
    | begun ticket =>
      by_cases h : ticket.sourceId = sourceId <;>
        simp_all [current?, sinceForgotten, Past.forgets, Past.begins]
    | ended ticket outcome taken =>
      simp_all [current?, sinceForgotten, Past.forgets, Past.begins]
    | forgotten id =>
      by_cases h : id = sourceId <;>
        simp_all [current?, sinceForgotten, Past.forgets, Past.begins]

/-! What happens to one source is not seen in what the history says of another. -/

theorem current?_cons_of_ne {e : Past} (h : e.sourceId ≠ sourceId) :
    current? sourceId (e :: history) = current? sourceId history := by
  cases e <;> simp_all [current?, Past.sourceId]

theorem taken?_of_ne {e : Past} (h : e.sourceId ≠ sourceId) : e.taken? sourceId = none := by
  cases e with
  | ended ticket outcome taken => cases taken <;> simp_all [Past.taken?, Past.sourceId]
  | begun | forgotten => rfl

theorem taken_sinceForgotten_cons_of_ne {e : Past} (h : e.sourceId ≠ sourceId) :
    taken sourceId (sinceForgotten sourceId (e :: history)) =
      taken sourceId (sinceForgotten sourceId history) := by
  have kept : e.forgets sourceId = false := by
    cases e <;> simp_all [Past.forgets, Past.sourceId]
  simp [sinceForgotten, taken, kept, taken?_of_ne h]

theorem taken_sinceBegun_cons_of_ne {e : Past} (h : e.sourceId ≠ sourceId) :
    taken sourceId (sinceBegun sourceId (e :: history)) =
      taken sourceId (sinceBegun sourceId history) := by
  have kept : e.begins sourceId = false := by
    cases e <;> simp_all [Past.begins, Past.sourceId]
  simp [sinceBegun, taken, kept, taken?_of_ne h]

theorem expected?_cons_of_ne {e : Past} (h : e.sourceId ≠ sourceId) :
    expected? sourceId (e :: history) = expected? sourceId history := by
  simp only [expected?, lastData?, lastError?, current?_cons_of_ne h,
    taken_sinceForgotten_cons_of_ne h, taken_sinceBegun_cons_of_ne h]

end

section

variable (history : List Past) (ticket : Ticket) (outcome : FetchOutcome)

theorem expected?_begun : expected? ticket.sourceId (.begun ticket :: history) = some {
    data := lastData? ticket.sourceId history
    loading := true
    error := lastError? ticket.sourceId history
    generation := ticket.generation } := by
  have results : taken ticket.sourceId (sinceForgotten ticket.sourceId (.begun ticket :: history))
      = taken ticket.sourceId (sinceForgotten ticket.sourceId history) := by
    simp [taken, sinceForgotten, List.filterMap_cons]
  have awaited : taken ticket.sourceId (sinceBegun ticket.sourceId (.begun ticket :: history))
      = [] := by
    simp [taken, sinceBegun]
  simp [expected?, current?, lastData?, lastError?, results, awaited]

theorem expected?_taken : expected? ticket.sourceId (.ended ticket outcome true :: history) =
    (expected? ticket.sourceId history).map fun entry => entry.record outcome := by
  have results : taken ticket.sourceId
      (sinceForgotten ticket.sourceId (.ended ticket outcome true :: history)) =
        outcome :: taken ticket.sourceId (sinceForgotten ticket.sourceId history) := by
    simp [taken, sinceForgotten]
  have settled : taken ticket.sourceId
      (sinceBegun ticket.sourceId (.ended ticket outcome true :: history)) =
        outcome :: taken ticket.sourceId (sinceBegun ticket.sourceId history) := by
    simp [taken, sinceBegun]
  simp only [expected?, current?, lastData?, lastError?, results, settled, Option.map_map]
  congr 1
  funext newest
  cases outcome <;> simp [LiveEntry.record, List.findSome?_cons, FetchOutcome.data?,
    FetchOutcome.error?]

theorem expected?_refused (sourceId : String) :
    expected? sourceId (.ended ticket outcome false :: history) = expected? sourceId history := by
  simp [expected?, current?, lastData?, lastError?, taken, sinceForgotten, sinceBegun,
    List.filterMap_cons]

end

/-! ### What every step keeps -/

namespace Journal

/-- Entries are as the history says. Nothing was taken for a source that has no entry, since
that was forgotten. Tickets have the numbers from 1 to the counter. -/
structure Kept (j : Journal) : Prop where
  entries : ∀ sourceId, j.cache.entry? sourceId = expected? sourceId j.history
  idle : ∀ sourceId, current? sourceId j.history = none →
    taken sourceId (sinceForgotten sourceId j.history) = []
  numbers : (tickets j.history).map Ticket.generation = List.range' 1 j.cache.issued

theorem kept_start : start.Kept := by
  constructor <;> intros <;> rfl

variable {j : Journal}

/-- The entry that an operation puts in place is the only one to look at. -/
theorem Kept.of_elsewhere {cache : LiveCache} {e : Past} (h : j.Kept)
    (elsewhere : ∀ other, e.sourceId ≠ other → cache.entry? other = j.cache.entry? other)
    (entry : cache.entry? e.sourceId = expected? e.sourceId (e :: j.history))
    (idle : current? e.sourceId (e :: j.history) = none →
      taken e.sourceId (sinceForgotten e.sourceId (e :: j.history)) = [])
    (numbers : (tickets (e :: j.history)).map Ticket.generation = List.range' 1 cache.issued) :
    Kept ⟨cache, e :: j.history⟩ := by
  refine ⟨fun other => ?_, fun other => ?_, numbers⟩
  · by_cases same : e.sourceId = other
    · exact same ▸ entry
    · rw [elsewhere other same, h.entries, expected?_cons_of_ne same]
  · by_cases same : e.sourceId = other
    · exact same ▸ idle
    · rw [current?_cons_of_ne same, taken_sinceForgotten_cons_of_ne same]
      exact h.idle other

/-- What a new fetch starts from: the entry there is, or an empty one. -/
theorem Kept.before_begin (h : j.Kept) (sourceId : String) :
    let entry := (j.cache.entry? sourceId).getD ⟨none, false, none, 0⟩
    entry.data = lastData? sourceId j.history ∧ entry.error = lastError? sourceId j.history := by
  rw [h.entries, expected?]
  cases hc : current? sourceId j.history with
  | none => simp [lastData?, lastError?, h.idle sourceId hc]
  | some newest => exact ⟨rfl, rfl⟩

theorem tickets_begun (ticket : Ticket) (history : List Past) :
    tickets (.begun ticket :: history) = tickets history ++ [ticket] := by
  simp [tickets, Past.ticket?]

theorem Kept.begin (h : j.Kept) (sourceId : String) : (j.begin sourceId).Kept := by
  apply h.of_elsewhere
  · intro other different
    exact Assoc.get?_put_of_ne different _ _
  · obtain ⟨data, error⟩ := h.before_begin sourceId
    refine (Assoc.get?_put_self _ _ _).trans ?_
    refine Eq.trans ?_ (expected?_begun j.history (j.cache.begin sourceId).1).symm
    simp only [data, error]
    rfl
  · simp [current?, Past.sourceId]
  · rw [tickets_begun, List.map_append, h.numbers]
    simp [LiveCache.begin, List.range'_1_concat, Nat.add_comm]

theorem Kept.refuse (h : j.Kept) (ticket : Ticket) (outcome : FetchOutcome) :
    Kept ⟨j.cache, .ended ticket outcome false :: j.history⟩ := by
  refine ⟨fun sourceId => ?_, fun sourceId none => ?_, h.numbers⟩
  · rw [h.entries, expected?_refused]
  · have same := h.idle sourceId none
    simpa [taken, sinceForgotten, List.filterMap_cons] using same

theorem Kept.complete (h : j.Kept) (ticket : Ticket) (outcome : FetchOutcome) :
    (j.complete ticket outcome).Kept := by
  have told := h.entries ticket.sourceId
  unfold Journal.complete LiveCache.complete
  cases he : j.cache.entry? ticket.sourceId with
  | none =>
    apply h.refuse
  | some entry =>
    rw [he] at told
    dsimp only
    split
    · apply h.of_elsewhere
      · intro other different
        exact Assoc.get?_put_of_ne different _ _
      · refine (Assoc.get?_put_self _ _ _).trans ?_
        refine Eq.trans ?_ (expected?_taken j.history ticket outcome).symm
        rw [← told, Option.map_some]
      · -- there is an entry, so some fetch is the newest
        intro none
        simp [expected?, show current? ticket.sourceId j.history = _ from none] at told
      · exact h.numbers
    · apply h.refuse

theorem Kept.forget (h : j.Kept) (sourceId : String) : (j.forget sourceId).Kept := by
  apply h.of_elsewhere
  · intro other different
    exact Assoc.get?_erase_of_ne different _
  · refine (Assoc.get?_erase_self _ _).trans ?_
    simp [expected?, current?, Past.sourceId]
  · simp [taken, sinceForgotten, Past.forgets, Past.sourceId]
  · exact h.numbers

theorem Kept.after (h : j.Kept) (event : Event) : (j.after event).Kept := by
  cases event with
  | begin sourceId => exact h.begin sourceId
  | complete n outcome =>
    rw [Journal.after]
    split
    · exact h.complete _ outcome
    · exact h
  | forget sourceId => exact h.forget sourceId
  | refresh sourceId transport request => exact (h.begin sourceId).complete _ _

theorem Kept.run (h : j.Kept) (events : List Event) : (j.run events).Kept := by
  induction events generalizing j with
  | nil => exact h
  | cons event rest ih => exact ih (h.after event)

/-! ### What a history tells -/

theorem complete_eq_true_iff {cache : LiveCache} {ticket : Ticket} {outcome : FetchOutcome} :
    (cache.complete ticket outcome).1 = true ↔
      (cache.entry? ticket.sourceId).map LiveEntry.generation = some ticket.generation := by
  unfold LiveCache.complete
  cases cache.entry? ticket.sourceId with
  | none => simp
  | some entry => by_cases same : entry.generation = ticket.generation <;> simp [same]

theorem snd_complete_of_refused {cache : LiveCache} {ticket : Ticket} {outcome : FetchOutcome}
    (refused : (cache.complete ticket outcome).1 = false) :
    (cache.complete ticket outcome).2 = cache := by
  unfold LiveCache.complete at refused ⊢
  split
  · rfl
  · split <;> simp_all

/-- A ticket is the current one if nothing later took its place. -/
theorem generation_current?_iff {later : List Past} (earlier : List Past) {ticket : Ticket}
    (newer : ∀ t, .begun t ∈ later → t.generation ≠ ticket.generation) :
    (current? ticket.sourceId (later ++ .begun ticket :: earlier)).map Ticket.generation =
        some ticket.generation ↔
      ∀ e ∈ later, e.begins ticket.sourceId = false ∧ e.forgets ticket.sourceId = false := by
  induction later with
  | nil => simp [current?]
  | cons e rest ih =>
    have rest_newer : ∀ t, .begun t ∈ rest → t.generation ≠ ticket.generation :=
      fun t ht => newer t (List.mem_cons_of_mem _ ht)
    cases e with
    | begun t =>
      have other := newer t (List.mem_cons_self ..)
      by_cases same : t.sourceId = ticket.sourceId
      · -- a later fetch of the source has another number
        simp [current?, same, other, Past.begins]
      · simp [current?, same, Past.begins, ih rest_newer]
    | ended t outcome taken => simp [current?, ih rest_newer]
    | forgotten id =>
      by_cases same : id = ticket.sourceId
      · simp [current?, same]
      · simp [current?, same, Past.begins, Past.forgets, ih rest_newer]

theorem Kept.newer (h : j.Kept) {later earlier : List Past} {ticket : Ticket}
    (split : j.history = later ++ .begun ticket :: earlier) :
    ∀ t, .begun t ∈ later → t.generation ≠ ticket.generation := by
  have distinct : ((tickets j.history).map Ticket.generation).Nodup :=
    h.numbers ▸ List.nodup_range'
  rw [split, tickets, List.map_reverse, List.nodup_reverse, List.filterMap_append,
    List.map_append, List.nodup_append] at distinct
  intro t ht
  apply distinct.2.2
  · exact List.mem_map_of_mem (List.mem_filterMap.mpr ⟨_, ht, rfl⟩)
  · simp [Past.ticket?]

section

variable {cache : LiveCache} {sourceId other : String}

theorem entry?_begin_of_ne (h : sourceId ≠ other) :
    LiveCache.entry? (cache.begin sourceId).2 other = cache.entry? other :=
  Assoc.get?_put_of_ne h _ _

theorem entry?_complete_of_ne {ticket : Ticket} (h : ticket.sourceId ≠ other)
    (outcome : FetchOutcome) :
    LiveCache.entry? (cache.complete ticket outcome).2 other = cache.entry? other := by
  unfold LiveCache.complete
  split
  · rfl
  · split
    · exact Assoc.get?_put_of_ne h _ _
    · rfl

theorem entry?_forget_of_ne (h : sourceId ≠ other) :
    LiveCache.entry? (cache.forget sourceId) other = cache.entry? other :=
  Assoc.get?_erase_of_ne h _

end

theorem after_elsewhere (j : Journal) {event : Event} {other : String}
    (different : event.sourceId? j.history ≠ some other) :
    LiveCache.entry? (j.after event).cache other = j.cache.entry? other := by
  cases event with
  | begin sourceId => exact entry?_begin_of_ne fun same => different (congrArg some same)
  | complete n outcome =>
    rw [Journal.after]
    cases issued : (tickets j.history)[n]? with
    | none => rfl
    | some ticket =>
      refine entry?_complete_of_ne (fun same => different ?_) outcome
      rw [Event.sourceId?, issued, Option.map_some, same]
  | forget sourceId => exact entry?_forget_of_ne fun same => different (congrArg some same)
  | refresh sourceId transport request =>
    have ne : sourceId ≠ other := fun same => different (congrArg some same)
    have ticket : (j.cache.begin sourceId).1.sourceId ≠ other := ne
    exact (entry?_complete_of_ne ticket _).trans (entry?_begin_of_ne ne)

theorem Kept.entry_eq (h : j.Kept) {sourceId : String} {entry : LiveEntry}
    (found : j.cache.entry? sourceId = some entry) :
    entry.data = lastData? sourceId j.history ∧
      entry.loading = (taken sourceId (sinceBegun sourceId j.history)).isEmpty ∧
      entry.error = lastError? sourceId j.history := by
  rw [h.entries, expected?] at found
  obtain ⟨newest, -, rfl⟩ := Option.map_eq_some_iff.mp found
  exact ⟨rfl, rfl, rfl⟩

theorem Kept.told (h : j.Kept) : j.Told where
  counts later ticket earlier split outcome := by
    rw [complete_eq_true_iff, h.entries, split]
    refine Iff.trans ?_ (generation_current?_iff earlier (h.newer split))
    simp [expected?, Function.comp_def]
  refused _ _ := snd_complete_of_refused
  distinct := List.Nodup.of_map _ (h.numbers ▸ List.nodup_range')
  absent sourceId := by
    rw [h.entries, ← current?_eq_none_iff]
    simp [expected?]
  data _ _ found := (h.entry_eq found).1
  error _ _ found := (h.entry_eq found).2.2
  loading _ _ found := by
    rw [(h.entry_eq found).2.1, List.isEmpty_iff]
  elsewhere _ _ := j.after_elsewhere
  issued := by
    simpa using (congrArg List.length h.numbers).symm

/-- Whatever happens, in any order and with results of any tickets, the cache is as its
history tells. -/
theorem told_run (events : List Event) : (start.run events).Told :=
  (kept_start.run events).told

end Journal

end LiveCache

end PageBuilder

import PageBuilder.Assoc
import PageBuilder.Source.Fetch
/-! Live data by source. Each fetch gets a ticket; a newer one of the same source
replaces it, and then its result no longer counts. -/
namespace PageBuilder

open Json (Value)

/-- What is known of a source's live data. `generation` belongs to its newest ticket. -/
structure LiveEntry where
  data : Option Value
  loading : Bool
  error : Option String
  generation : Nat
  deriving DecidableEq, Repr

/-- The entry after a result; a failure keeps the data. -/
def LiveEntry.record (entry : LiveEntry) : FetchOutcome → LiveEntry
  | .success data _ => { entry with loading := false, data := some data, error := none }
  | .failure error _ => { entry with loading := false, error := some error }

structure Ticket where
  sourceId : String
  generation : Nat
  deriving DecidableEq, Repr

/-- Generations are counted over all sources, so a ticket from before its source
was forgotten never becomes valid again. -/
structure LiveCache where
  entries : List (String × LiveEntry)
  issued : Nat
  deriving DecidableEq, Repr

namespace LiveCache

def empty : LiveCache := ⟨[], 0⟩

def entry? (cache : LiveCache) (sourceId : String) : Option LiveEntry :=
  Assoc.get? sourceId cache.entries

/-- The data last fetched for a source. -/
def data? (cache : LiveCache) (sourceId : String) : Option Value :=
  (cache.entry? sourceId).bind LiveEntry.data

/-- Starts a fetch. Data and error of the one before stay until it is completed. -/
def begin (cache : LiveCache) (sourceId : String) : Ticket × LiveCache :=
  let generation := cache.issued + 1
  let entry := (cache.entry? sourceId).getD ⟨none, false, none, 0⟩
  (⟨sourceId, generation⟩,
    ⟨Assoc.put sourceId { entry with generation, loading := true } cache.entries, generation⟩)

/-- Takes a result if its ticket is the newest of its source, and tells whether. -/
def complete (cache : LiveCache) (ticket : Ticket) (outcome : FetchOutcome) : Bool × LiveCache :=
  match cache.entry? ticket.sourceId with
  | none => (false, cache)
  | some entry =>
    if entry.generation = ticket.generation then
      (true, { cache with
        entries := Assoc.put ticket.sourceId (entry.record outcome) cache.entries })
    else (false, cache)

/-- Starts, performs and completes a fetch. -/
def refresh (cache : LiveCache) (sourceId : String) (transport : HttpRequest → Reply)
    (request : FetchRequest) : LiveCache :=
  let (ticket, cache) := cache.begin sourceId
  (cache.complete ticket (fetch transport request)).2

def forget (cache : LiveCache) (sourceId : String) : LiveCache :=
  { cache with entries := Assoc.erase sourceId cache.entries }

end LiveCache

end PageBuilder

import PageBuilder.Json.Value
/-! Data sources: where a block's data may come from, and the samples stored of it. -/
namespace PageBuilder

open Json (Value Members)

/-- Names and values, in the order of the names. -/
abbrev Headers := List (String × String)

/-- Adds a header; it takes the place of one with the very same name. -/
def Headers.put (name value : String) : Headers → Headers
  | [] => [(name, value)]
  | (n, v) :: rest =>
    if name = n then (name, value) :: rest
    else if name < n then (name, value) :: (n, v) :: rest
    else (n, v) :: Headers.put name value rest

def Headers.ofList (entries : List (String × String)) : Headers :=
  entries.foldl (fun headers e => headers.put e.1 e.2) []

inductive SourceKind where
  | rest
  | graphql
  | mock
  deriving DecidableEq, Repr

def SourceKind.all : List SourceKind := [.rest, .graphql, .mock]

def SourceKind.id : SourceKind → String
  | .rest => "REST"
  | .graphql => "GRAPHQL"
  | .mock => "MOCK"

def SourceKind.ofId? (id : String) : Option SourceKind :=
  all.find? fun kind => kind.id = id

@[simp] theorem SourceKind.ofId?_id (kind : SourceKind) : ofId? kind.id = some kind := by
  cases kind <;> decide

/-- A stored example of what a source answers. -/
structure DataSample where
  id : String
  label : String
  payload : Value
  deriving DecidableEq, Repr

structure DataSource where
  id : String
  name : String
  kind : SourceKind
  endpoint : Option String
  method : Option String
  headers : Option Headers
  description : Option String
  config : Value
  samples : List DataSample
  deriving DecidableEq, Repr

def DataSource.sample? (source : DataSource) (sampleId : String) : Option DataSample :=
  source.samples.find? fun s => s.id = sampleId

/-- The part of a stored config that matters for the kind of source. -/
inductive SourceConfig where
  | rest (body : Option Value)
  | graphql (query : String) (vars : Members)
  | mock (payload : Value)
  deriving DecidableEq, Repr

/-- Fields that are missing or of another type are empty. -/
def SourceConfig.ofStored (kind : SourceKind) (config : Value) : SourceConfig :=
  match kind with
  | .rest => .rest ((config.member? "body").filter fun body => !body.isNull)
  | .graphql =>
    .graphql (config.textAt "query")
      (((config.member? "variables").bind Value.members?).getD [])
  | .mock => .mock (config.valueAt "mock")

/-- The payload of a pinned sample. It counts only if it is a container. -/
def pinnedPayload? (sources : List DataSource) (sourceId : String) (sampleId : Option String) :
    Option Value := do
  let source ← sources.find? fun s => s.id = sourceId
  let sample ← source.sample? (← sampleId)
  if sample.payload.isContainer then some sample.payload else none

end PageBuilder

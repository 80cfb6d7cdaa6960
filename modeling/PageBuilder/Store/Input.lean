import PageBuilder.Source.Stored
/-! What callers hand to the store to create and change sources and samples. -/
namespace PageBuilder

open Json (Value Shape Mismatch)

structure NewSample where
  label : String
  payload : Value
  deriving DecidableEq, Repr

structure NewDataSource where
  name : String
  kind : SourceKind
  endpoint : Option String
  method : Option String
  headers : Option Headers
  description : Option String
  config : Value
  samples : List NewSample
  deriving DecidableEq, Repr

/-- New contents for some fields of a source; absent ones stay as they are. -/
structure SourcePatch where
  name : Option String
  kind : Option SourceKind
  endpoint : Option String
  method : Option String
  headers : Option Headers
  description : Option String
  config : Option Value
  deriving DecidableEq, Repr

/-- A sample to change, if the id names one, or to create. -/
structure SampleUpsert where
  sampleId : Option String
  label : String
  payload : Value
  deriving DecidableEq, Repr

def NewSample.shape : Shape :=
  .record "NewSample" [.required "label" .string, .optional "payload" .any]

def NewSample.ofPlain (v : Value) : NewSample :=
  ⟨v.textAt "label", v.valueAt "payload"⟩

def NewDataSource.shape : Shape :=
  .record "NewDataSource"
    [.required "name" .string, .required "type" SourceKind.shape,
      .optional "endpoint" (.nullable .string), .optional "method" (.nullable .string),
      .optional "headers" (.nullable .texts), .optional "description" (.nullable .string),
      .optional "config" .any, .optional "samples" (.list NewSample.shape)]

def NewDataSource.read (v : Value) : Except Mismatch NewDataSource := do
  let v ← shape.conform v
  return {
    name := v.textAt "name"
    kind := .ofPlain (v.valueAt "type")
    endpoint := v.textAt? "endpoint"
    method := v.textAt? "method"
    headers := Headers.ofPlain (v.valueAt "headers")
    description := v.textAt? "description"
    config := v.valueAt "config"
    samples := (v.itemsAt "samples").map NewSample.ofPlain }

namespace SourcePatch

def shape : Shape :=
  .record "DataSourcePatch"
    [.optional "name" (.nullable .string), .optional "type" (.nullable SourceKind.shape),
      .optional "endpoint" (.nullable .string), .optional "method" (.nullable .string),
      .optional "headers" (.nullable .texts), .optional "description" (.nullable .string),
      .optional "config" (.nullable .any)]

/-- A member unless it is absent or null. -/
def given? (key : String) (v : Value) : Option Value :=
  (v.member? key).filter fun content => !content.isNull

def read (v : Value) : Except Mismatch SourcePatch := do
  let v ← shape.conform v
  return {
    name := v.textAt? "name"
    kind := (given? "type" v).map SourceKind.ofPlain
    endpoint := v.textAt? "endpoint"
    method := v.textAt? "method"
    headers := Headers.ofPlain (v.valueAt "headers")
    description := v.textAt? "description"
    config := given? "config" v }

def toValue (p : SourcePatch) : Value :=
  .object [("name", orNull p.name), ("type", orNull (p.kind.map SourceKind.id)),
    ("endpoint", orNull p.endpoint), ("method", orNull p.method),
    ("headers", Headers.toValue p.headers), ("description", orNull p.description),
    ("config", p.config.getD .null)]

/-- The source with the fields that the patch gives. -/
def apply (p : SourcePatch) (s : DataSource) : DataSource :=
  { s with
    name := p.name.getD s.name
    kind := p.kind.getD s.kind
    endpoint := p.endpoint.or s.endpoint
    method := p.method.or s.method
    headers := p.headers.or s.headers
    description := p.description.or s.description
    config := p.config.getD s.config }

end SourcePatch

def SampleUpsert.shape : Shape :=
  .record "SampleUpsert"
    [.optional "sampleId" (.nullable .string), .required "label" .string,
      .optional "payload" .any]

def SampleUpsert.read (v : Value) : Except Mismatch SampleUpsert := do
  let v ← shape.conform v
  return ⟨v.textAt? "sampleId", v.textAt "label", v.valueAt "payload"⟩

end PageBuilder

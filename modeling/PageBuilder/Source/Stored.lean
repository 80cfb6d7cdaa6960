import PageBuilder.Canvas.Stored
import PageBuilder.Source.Basic
/-! Data sources as JSON. -/
namespace PageBuilder

open Json (Value Shape Mismatch Failure)

def SourceKind.shape : Shape :=
  .choice (SourceKind.all.map SourceKind.id)

/-- The kind of a plain value, which has the name of one. -/
def SourceKind.ofPlain (v : Value) : SourceKind :=
  (v.string?.bind SourceKind.ofId?).getD .rest

def Headers.toValue (headers : Option Headers) : Value :=
  match headers with
  | some entries => .object (entries.map fun e => (e.1, .string e.2))
  | none => .null

def Headers.ofPlain (v : Value) : Option Headers :=
  v.members?.map fun members =>
    Headers.ofList (members.filterMap fun m => m.2.string?.map fun s => (m.1, s))

def Headers.read (v : Value) : Except Mismatch Headers :=
  (Shape.texts.conform v).map fun plain => (Headers.ofPlain plain).getD []

def DataSample.toValue (s : DataSample) : Value :=
  .object [("id", .string s.id), ("label", .string s.label), ("payload", s.payload)]

def DataSample.shape : Shape :=
  .record "DataSample"
    [.required "id" .string, .required "label" .string, .optional "payload" .any]

def DataSample.ofPlain (v : Value) : DataSample :=
  ⟨v.textAt "id", v.textAt "label", v.valueAt "payload"⟩

namespace DataSource

def toValue (s : DataSource) : Value :=
  .object [("id", .string s.id), ("name", .string s.name), ("type", .string s.kind.id),
    ("endpoint", orNull s.endpoint), ("method", orNull s.method),
    ("headers", Headers.toValue s.headers), ("description", orNull s.description),
    ("config", s.config), ("samples", .array (s.samples.map DataSample.toValue))]

def shape : Shape :=
  .record "DataSource"
    [.required "id" .string, .optional "name" .string, .required "type" SourceKind.shape,
      .optional "endpoint" (.nullable .string), .optional "method" (.nullable .string),
      .optional "headers" (.nullable .texts), .optional "description" (.nullable .string),
      .optional "config" .any, .optional "samples" (.list DataSample.shape)]

def ofPlain (v : Value) : DataSource where
  id := v.textAt "id"
  name := v.textAt "name"
  kind := .ofPlain (v.valueAt "type")
  endpoint := v.textAt? "endpoint"
  method := v.textAt? "method"
  headers := Headers.ofPlain (v.valueAt "headers")
  description := v.textAt? "description"
  config := v.valueAt "config"
  samples := (v.itemsAt "samples").map DataSample.ofPlain

def read (v : Value) : Except Mismatch DataSource :=
  (shape.conform v).map ofPlain

def listOfPlain (v : Value) : List DataSource :=
  (v.items?.getD []).map ofPlain

def readList (v : Value) : Except Mismatch (List DataSource) :=
  ((Shape.list shape).conform v).map listOfPlain

def parseList (text : String) : Except Failure (List DataSource) :=
  ((Shape.list shape).parse text).map listOfPlain

end DataSource

end PageBuilder

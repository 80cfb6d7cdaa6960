import PageBuilder.Json.Parser
import PageBuilder.Source.Basic
import PageBuilder.Text.Blank
import PageBuilder.Text.Upper
/-! Live data of a source: the request that asks for it, and what an answer means.
Sending is left to a transport. -/
namespace PageBuilder

open Json (Value)

/-- What has to be known to ask for a source's data. -/
structure FetchRequest where
  kind : SourceKind
  endpoint : String
  method : Option String
  headers : Headers
  config : Value
  deriving DecidableEq, Repr

def DataSource.fetchRequest (source : DataSource) : FetchRequest where
  kind := source.kind
  endpoint := source.endpoint.getD ""
  method := source.method
  headers := source.headers.getD []
  config := source.config

structure HttpRequest where
  method : String
  url : String
  headers : Headers
  body : Option String
  deriving DecidableEq, Repr

structure HttpResponse where
  status : Nat
  statusText : String
  body : String
  deriving DecidableEq, Repr

def HttpResponse.isSuccess (response : HttpResponse) : Bool :=
  200 ≤ response.status && response.status < 300

/-- A response, or why there is none. -/
abbrev Reply := Except String HttpResponse

inductive FetchOutcome where
  | success (data : Value) (status : Option Nat)
  | failure (error : String) (status : Option Nat)
  deriving DecidableEq, Repr

namespace FetchOutcome

def isSuccess : FetchOutcome → Bool
  | .success _ _ => true
  | .failure _ _ => false

def data? : FetchOutcome → Option Value
  | .success data _ => some data
  | .failure _ _ => none

def statusMember : Option Nat → Json.Members
  | some status => [("status", .number (.integer status))]
  | none => []

def toValue : FetchOutcome → Value
  | .success data status =>
    .object ([("success", .bool true), ("data", data)] ++ statusMember status)
  | .failure error status =>
    .object ([("success", .bool false), ("error", .string error)] ++ statusMember status)

end FetchOutcome

/-! ### Requests -/

/-- The stored headers over the one that every request has. -/
def jsonHeaders (stored : Headers) : Headers :=
  stored.foldl (fun headers e => headers.put e.1 e.2) [("Content-Type", "application/json")]

/-- Methods whose requests have a body. -/
def sendsBody (method : String) : Bool :=
  method ∈ ["POST", "PUT", "PATCH"]

/-- A text is sent as it is, any other value as JSON. -/
def bodyText : Value → String
  | .string s => s
  | v => v.compact

def restMethod (stored : Option String) : String :=
  Text.upper ((stored.filter fun m => !Text.isBlank m).getD "GET")

def FetchRequest.rest (r : FetchRequest) (body : Option Value) : HttpRequest :=
  let method := restMethod r.method
  ⟨method, r.endpoint, jsonHeaders r.headers,
    if sendsBody method then body.map bodyText else none⟩

def FetchRequest.graphql (r : FetchRequest) (query : String) (vars : Json.Members) :
    HttpRequest :=
  ⟨"POST", r.endpoint, jsonHeaders r.headers,
    some (Value.object [("query", .string query), ("variables", .object vars)]).compact⟩

/-- The data itself, or the request to send for it. -/
def FetchRequest.plan (r : FetchRequest) : Value ⊕ HttpRequest :=
  match SourceConfig.ofStored r.kind r.config with
  | .mock payload => .inl payload
  | .rest body => .inr (r.rest body)
  | .graphql query vars => .inr (r.graphql query vars)

/-! ### Answers -/

/-- What one of the errors in an answer says. -/
def errorText (e : Value) : String :=
  (e.textAt? "message").getD e.compact

/-- A GraphQL answer succeeds if it lists no error. -/
def interpretGraphql (answer : Value) (status : Nat) : FetchOutcome :=
  match answer.itemsAt "errors" with
  | [] => .success (answer.valueAt "data") (some status)
  | errors => .failure (", ".intercalate (errors.map errorText)) (some status)

def interpret (kind : SourceKind) (response : HttpResponse) : FetchOutcome :=
  if !response.isSuccess then
    .failure ("HTTP " ++ toString response.status ++ ": " ++ response.statusText)
      (some response.status)
  else
    match Json.parse response.body with
    | .error e => .failure ("Invalid JSON response: " ++ e.message) (some response.status)
    | .ok answer =>
      if kind = .graphql then interpretGraphql answer response.status
      else .success answer (some response.status)

/-- Asks for live data. A transport that fails is a failure without a status. -/
def fetch (transport : HttpRequest → Reply) (r : FetchRequest) : FetchOutcome :=
  match r.plan with
  | .inl payload => .success payload none
  | .inr request =>
    match transport request with
    | .error message => .failure message none
    | .ok response => interpret r.kind response

end PageBuilder

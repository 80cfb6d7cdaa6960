import PageBuilder.Source.Fetch
/-! What passes for the answer of a GraphQL source. A reply succeeds if its body is an answer in
JSON that lists no errors; errors that are given in another form than a list go unseen. -/
namespace PageBuilder

open Json (Value)

/-! ### Errors in an answer -/

/-- The member for errors is absent, null or an empty list. -/
def isErrorFree (answer : Value) : Bool :=
  match answer.member? "errors" with
  | none | some .null | some (.array []) => true
  | _ => false

/-- There are errors, in another form than a list. -/
def hasUnlistedErrors (answer : Value) : Bool :=
  match answer.member? "errors" with
  | none | some .null | some (.array _) => false
  | _ => true

theorem hasUnlistedErrors_of_isErrorFree {answer : Value} (h : isErrorFree answer = true) :
    hasUnlistedErrors answer = false := by
  unfold isErrorFree at h
  unfold hasUnlistedErrors
  split at h <;> simp_all

theorem itemsAt_errors_eq_nil_iff {answer : Value} :
    answer.itemsAt "errors" = [] ↔
      isErrorFree answer = true ∨ hasUnlistedErrors answer = true := by
  unfold isErrorFree hasUnlistedErrors Value.itemsAt
  cases answer.member? "errors" with
  | none => simp
  | some errors =>
    cases errors with
    | array items => cases items <;> simp [Value.items?]
    | null | bool | number | string | object => simp [Value.items?]

theorem interpretGraphql_eq_success_iff {answer data : Value} {code : Nat} {status : Option Nat} :
    interpretGraphql answer code = .success data status ↔
      (isErrorFree answer = true ∨ hasUnlistedErrors answer = true) ∧
        data = answer.valueAt "data" ∧ status = some code := by
  rw [← itemsAt_errors_eq_nil_iff, interpretGraphql]
  split
  case h_1 none => simp [none, eq_comm]
  case h_2 given =>
    refine iff_of_false nofun ?_
    rintro ⟨none, -⟩
    exact given none

/-! ### Replies -/

/-- The reply is a response of success whose body is the answer in JSON. -/
def Reply.Answers (reply : Reply) (answer : Value) (code : Nat) : Prop :=
  ∃ response, reply = .ok response ∧ response.status = code ∧ 200 ≤ code ∧ code ≤ 299 ∧
    Json.parse response.body = .ok answer

theorem Reply.Answers.unique {reply : Reply} {answer other : Value} {code code' : Nat}
    (h : reply.Answers answer code) (h' : reply.Answers other code') : answer = other := by
  obtain ⟨response, rfl, -, -, -, read⟩ := h
  obtain ⟨_, ⟨⟩, -, -, -, read'⟩ := h'
  exact Except.ok.inj (read.symm.trans read')

theorem Reply.answers_of_toOption {status : Nat} {reason body : String} {answer : Value}
    (low : 200 ≤ status) (high : status ≤ 299) (h : (Json.parse body).toOption = some answer) :
    Reply.Answers (.ok ⟨status, reason, body⟩) answer status := by
  refine ⟨_, rfl, rfl, low, high, ?_⟩
  cases read : Json.parse body with
  | error e =>
    rw [read] at h
    cases h
  | ok value =>
    rw [read] at h
    exact congrArg _ (Option.some.inj h)

theorem interpret_eq_success_iff {response : HttpResponse} {data : Value} {status : Option Nat} :
    interpret .graphql response = .success data status ↔
      ∃ answer code, Reply.Answers (.ok response) answer code ∧
        interpretGraphql answer code = .success data status := by
  have read {answer : Value} {code : Nat} (answers : Reply.Answers (.ok response) answer code) :
      response.status = code ∧ response.isSuccess = true ∧
        Json.parse response.body = .ok answer := by
    obtain ⟨_, ⟨⟩, rfl, low, high, read⟩ := answers
    have range : response.isSuccess = true := by
      simp only [HttpResponse.isSuccess, Bool.and_eq_true, decide_eq_true_eq]
      omega
    exact ⟨rfl, range, read⟩
  constructor
  · intro success
    unfold interpret at success
    split at success
    case isTrue => cases success
    case isFalse range =>
      split at success
      case h_1 => cases success
      case h_2 answer parsed =>
        simp only [HttpResponse.isSuccess, Bool.not_eq_true', Bool.not_eq_false, Bool.and_eq_true,
          decide_eq_true_eq] at range
        exact ⟨answer, response.status,
          ⟨response, rfl, rfl, range.1, by omega, parsed⟩, success⟩
  · rintro ⟨answer, code, answers, success⟩
    obtain ⟨rfl, range, parsed⟩ := read answers
    rw [interpret, range, parsed]
    exact success

theorem FetchRequest.exists_plan_graphql {r : FetchRequest} (kind : r.kind = .graphql) :
    ∃ request, r.plan = .inr request := by
  rw [plan, kind]
  exact ⟨_, rfl⟩

/-- Whether an outcome is a success just if the reply is an answer without errors, and then
holds the data of that answer. -/
def FetchOutcome.IsGated (outcome : FetchOutcome) (reply : Reply) : Prop :=
  ∀ data status, outcome = .success data status ↔ ∃ answer code,
    reply.Answers answer code ∧ isErrorFree answer = true ∧
      data = answer.valueAt "data" ∧ status = some code

theorem fetch_graphql_eq_success_iff {r : FetchRequest} (kind : r.kind = .graphql)
    {request : HttpRequest} (asked : r.plan = .inr request) (transport : HttpRequest → Reply)
    (data : Value) (status : Option Nat) :
    fetch transport r = .success data status ↔ ∃ answer code,
      (transport request).Answers answer code ∧
        (isErrorFree answer = true ∨ hasUnlistedErrors answer = true) ∧
        data = answer.valueAt "data" ∧ status = some code := by
  simp only [← interpretGraphql_eq_success_iff]
  simp only [fetch, asked, kind]
  cases transport request with
  | error message =>
    refine iff_of_false nofun ?_
    rintro ⟨_, _, ⟨response, failed, _⟩, _⟩
    cases failed
  | ok response => exact interpret_eq_success_iff

/-- A GraphQL source is asked once. Whatever the reply, its data is taken just if it is a
response of success with an answer that lists no errors, which is the gate that it should pass
unless the answer gives its errors in another form. -/
theorem graphql_gate_iff {r : FetchRequest} (kind : r.kind = .graphql) :
    ∃ request, r.plan = .inr request ∧ ∀ transport : HttpRequest → Reply,
      let outcome := fetch transport r
      let reply := transport request
      (∀ data status, outcome = .success data status ↔ ∃ answer code,
        reply.Answers answer code ∧
          (isErrorFree answer = true ∨ hasUnlistedErrors answer = true) ∧
          data = answer.valueAt "data" ∧ status = some code) ∧
      (outcome.IsGated reply ↔
        ∀ answer code, reply.Answers answer code → hasUnlistedErrors answer = false) := by
  obtain ⟨request, asked⟩ := FetchRequest.exists_plan_graphql kind
  refine ⟨request, asked, fun transport => ?_⟩
  intro outcome reply
  have taken := fetch_graphql_eq_success_iff kind asked transport
  refine ⟨taken, fun gated answer code answers => ?_, fun listed data status => ?_⟩
  · refine Bool.eq_false_iff.mpr fun unlisted => ?_
    obtain ⟨other, _, answers', free, -⟩ := (gated (answer.valueAt "data") (some code)).mp
      ((taken _ _).mpr ⟨answer, code, answers, .inr unlisted, rfl, rfl⟩)
    rw [answers.unique answers', hasUnlistedErrors_of_isErrorFree free] at unlisted
    cases unlisted
  · rw [taken]
    constructor
    · rintro ⟨answer, code, answers, free | unlisted, held⟩
      · exact ⟨answer, code, answers, free, held⟩
      · rw [listed answer code answers] at unlisted
        cases unlisted
    · rintro ⟨answer, code, answers, free, held⟩
      exact ⟨answer, code, answers, .inl free, held⟩

/-- Null for errors, with the last status of success. -/
theorem graphql_gate_null_errors :
    let r : FetchRequest := ⟨.graphql, "https://example.org", none, [], .null⟩
    let reply : Reply := .ok ⟨299, "", "\x7b\"errors\":null,\"data\":[true]\x7d"⟩
    r.kind = .graphql ∧ fetch (fun _ => reply) r = .success (.array [.bool true]) (some 299) := by
  intro r reply
  have kind : r.kind = .graphql := rfl
  obtain ⟨request, -, gate⟩ := graphql_gate_iff kind
  have read : reply.Answers
      (.object [("errors", .null), ("data", .array [.bool true])]) 299 :=
    Reply.answers_of_toOption (by decide) (by decide) (by decide +kernel)
  exact ⟨kind, ((gate fun _ => reply).1 _ _).mpr ⟨_, _, read, .inl rfl, rfl, rfl⟩⟩

/-- An object of errors passes for none, and the query that failed has null for its data. -/
theorem graphql_gate_passed_by_object :
    let r : FetchRequest := ⟨.graphql, "https://example.org", none, [], .null⟩
    let reply : Reply := .ok ⟨200, "OK", "\x7b\"errors\":\x7b\"message\":\"boom\"\x7d\x7d"⟩
    fetch (fun _ => reply) r = .success .null (some 200) ∧
      ¬(fetch (fun _ => reply) r).IsGated reply := by
  intro r reply
  have passed : fetch (fun _ => reply) r = .success .null (some 200) := by decide +kernel
  have read : reply.Answers (.object [("errors", .object [("message", .string "boom")])]) 200 :=
    Reply.answers_of_toOption (by decide) (by decide) (by decide +kernel)
  refine ⟨passed, fun gated => ?_⟩
  obtain ⟨answer, _, answers, free, -⟩ := (gated _ _).mp passed
  rw [← read.unique answers] at free
  exact absurd free (by decide)

end PageBuilder

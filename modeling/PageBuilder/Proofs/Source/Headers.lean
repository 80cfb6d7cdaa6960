import Mathlib.Data.List.Nodup
import Mathlib.Tactic.SplitIfs
import PageBuilder.Proofs.Json.Sameness
import PageBuilder.Source.Fetch
/-! The headers of a request: those stored with a source, and the one that every request has. A
stored header takes the place of that one only if it has the very same name, whereas to HTTP
names are the same whatever the case of their letters. -/
namespace PageBuilder

namespace Headers

/-! ### Headers in the order of their names -/

def InOrder (headers : Headers) : Prop :=
  headers.Pairwise fun a b => a.1 < b.1

variable {headers : Headers}

theorem put_perm (h : headers.InOrder) (name value : String) :
    (headers.put name value).Perm ((name, value) :: headers.filter fun e => e.1 ≠ name) := by
  induction headers with
  | nil => exact .refl _
  | cons first rest ih =>
    obtain ⟨n, v⟩ := first
    obtain ⟨below, ordered⟩ := List.pairwise_cons.mp h
    by_cases same : name = n
    · subst same
      have others : rest.filter (fun e => e.1 ≠ name) = rest :=
        List.filter_eq_self.mpr fun e he => decide_eq_true (String.ne_of_lt (below e he)).symm
      rw [put, if_pos rfl, List.filter_cons_of_neg (by simp), others]
    have kept : ((n, v) :: rest).filter (fun e => e.1 ≠ name) =
        (n, v) :: rest.filter fun e => e.1 ≠ name :=
      List.filter_cons_of_pos (decide_eq_true fun h => same h.symm)
    rw [put, if_neg same, kept]
    split
    case isTrue less =>
      have others : rest.filter (fun e => e.1 ≠ name) = rest :=
        List.filter_eq_self.mpr fun e he =>
          decide_eq_true (String.ne_of_lt (String.lt_trans less (below e he))).symm
      rw [others]
    case isFalse => exact ((ih ordered).cons _).trans (.swap ..)

/-! Headers are put as the members of an object are. -/

def members (headers : Headers) : Json.Members :=
  headers.map fun e => (e.1, .string e.2)

theorem members_put (headers : Headers) (name value : String) :
    (headers.put name value).members = Json.insertMember name (.string value) headers.members := by
  induction headers with
  | nil => rfl
  | cons first rest ih =>
    simp only [members, put, Json.insertMember, List.map_cons] at ih ⊢
    split_ifs
    · rfl
    · rfl
    · rw [List.map_cons, ih]

theorem inOrder_members_iff : Json.InOrder headers.members ↔ headers.InOrder := by
  rw [Json.InOrder, members, List.pairwise_map]
  rfl

theorem InOrder.put (h : headers.InOrder) (name value : String) :
    (headers.put name value).InOrder := by
  rw [← inOrder_members_iff, members_put]
  exact (inOrder_members_iff.mpr h).insertMember name (.string value)

/-- With distinct names, headers that are put one after the other are all there, beside those of
other names that were there before. -/
theorem foldl_put_perm {stored : Headers} (distinct : (stored.map Prod.fst).Nodup)
    (h : headers.InOrder) :
    (stored.foldl (fun headers e => headers.put e.1 e.2) headers).Perm
      (stored ++ headers.filter fun e => e.1 ∉ stored.map Prod.fst) := by
  induction stored generalizing headers with
  | nil => simp
  | cons e rest ih =>
    obtain ⟨new, distinct⟩ := List.nodup_cons.mp distinct
    have left : ((e :: headers.filter fun a => a.1 ≠ e.1).filter
        fun a => a.1 ∉ rest.map Prod.fst) =
        e :: headers.filter fun a => a.1 ∉ (e :: rest).map Prod.fst := by
      rw [List.filter_cons_of_pos (by simpa using new), List.filter_filter]
      refine congrArg (e :: ·) (List.filter_congr fun a _ => ?_)
      rw [List.map_cons, ← Bool.decide_and]
      exact decide_eq_decide.mpr (by rw [List.mem_cons, not_or, and_comm])
    calc (rest.foldl (fun headers e => headers.put e.1 e.2) (headers.put e.1 e.2))
      _ |>.Perm (rest ++ (headers.put e.1 e.2).filter fun a => a.1 ∉ rest.map Prod.fst) :=
        ih distinct (h.put e.1 e.2)
      _ |>.Perm (rest ++ e :: headers.filter fun a => a.1 ∉ (e :: rest).map Prod.fst) :=
        left ▸ ((put_perm h e.1 e.2).filter _).append_left rest
      _ |>.Perm (e :: rest ++ headers.filter fun a => a.1 ∉ (e :: rest).map Prod.fst) :=
        List.perm_middle

/-! ### Names as HTTP compares them -/

/-- A name with the case of its ASCII letters left out. -/
def lowered (name : String) : List Char :=
  name.toList.map Char.toLower

def Distinct (headers : Headers) : Prop :=
  (headers.map fun e => lowered e.1).Nodup

instance (headers : Headers) : Decidable headers.Distinct :=
  inferInstanceAs (Decidable (List.Nodup _))

theorem Distinct.eq_of_lowered (h : headers.Distinct) {a b : String × String} (ha : a ∈ headers)
    (hb : b ∈ headers) (same : lowered a.1 = lowered b.1) : a = b :=
  List.inj_on_of_nodup_map h ha hb same

theorem Distinct.nodup_names (h : headers.Distinct) : (headers.map Prod.fst).Nodup := by
  refine List.Nodup.of_map lowered ?_
  rw [List.map_map]
  exact h

def isContentType (name : String) : Bool :=
  lowered name = lowered "Content-Type"

/-- Content-Type, where it occurs, is written with these capitals. -/
def SpelledPlainly (headers : Headers) : Prop :=
  ∀ e ∈ headers, isContentType e.1 = true → e.1 = "Content-Type"

instance (headers : Headers) : Decidable headers.SpelledPlainly :=
  inferInstanceAs (Decidable (∀ e ∈ headers, _ → _))

def announcesJson (headers : Headers) : Bool :=
  headers.any fun e => isContentType e.1 && e.2 = "application/json"

/-- To HTTP, the stored headers are all sent, each name is sent once, and JSON is announced just
if nothing else is stored for it. -/
structure Override (stored sent : Headers) : Prop where
  kept : ∀ e ∈ stored, e ∈ sent
  distinct : sent.Distinct
  json : sent.announcesJson = true ↔
    (∀ e ∈ stored, isContentType e.1 = false) ∨ stored.announcesJson = true

/-! ### What is sent -/

/-- The header that every request has. -/
def announcement : String × String :=
  ("Content-Type", "application/json")

variable {stored : Headers}

theorem jsonHeaders_perm (distinct : (stored.map Prod.fst).Nodup) :
    (jsonHeaders stored).Perm
      (stored ++ [announcement].filter fun e => e.1 ∉ stored.map Prod.fst) := by
  have ordered : InOrder [announcement] := List.pairwise_singleton _ _
  exact foldl_put_perm distinct ordered

theorem mem_jsonHeaders_iff (distinct : (stored.map Prod.fst).Nodup) {e : String × String} :
    e ∈ jsonHeaders stored ↔
      e ∈ stored ∨ e = announcement ∧ "Content-Type" ∉ stored.map Prod.fst := by
  rw [(jsonHeaders_perm distinct).mem_iff, List.mem_append, List.mem_filter, List.mem_singleton,
    decide_eq_true_iff]
  exact or_congr_right (and_congr_right fun same => by rw [same, announcement])

theorem distinct_jsonHeaders_iff (distinct : stored.Distinct) :
    (jsonHeaders stored).Distinct ↔ stored.SpelledPlainly := by
  have sent := (jsonHeaders_perm distinct.nodup_names).map fun e => lowered e.1
  rw [Distinct, sent.nodup_iff]
  by_cases given : "Content-Type" ∈ stored.map Prod.fst
  · have plain : stored.SpelledPlainly := by
      obtain ⟨a, ha, named⟩ := List.mem_map.mp given
      intro e he typed
      have same : lowered e.1 = lowered a.1 := by
        rw [named]
        exact of_decide_eq_true typed
      rw [distinct.eq_of_lowered he ha same, named]
    have none : [announcement].filter (fun e => e.1 ∉ stored.map Prod.fst) = [] :=
      List.filter_cons_of_neg fun absent => of_decide_eq_true absent given
    rw [none, List.append_nil]
    exact iff_of_true distinct plain
  · have one : [announcement].filter (fun e => e.1 ∉ stored.map Prod.fst) = [announcement] :=
      List.filter_cons_of_pos (decide_eq_true given)
    rw [one, List.map_append, List.nodup_append]
    constructor
    · rintro ⟨-, -, apart⟩ e he typed
      exact absurd (of_decide_eq_true typed)
        (apart _ (List.mem_map_of_mem he) _ (List.mem_singleton_self _))
    · refine fun plain => ⟨distinct, List.nodup_singleton _, fun a ha b hb same => ?_⟩
      obtain ⟨e, he, rfl⟩ := List.mem_map.mp ha
      obtain rfl := List.mem_singleton.mp hb
      exact given (List.mem_map.mpr ⟨e, he, plain e he (decide_eq_true same)⟩)

theorem announcesJson_iff {headers : Headers} :
    headers.announcesJson = true ↔
      ∃ e ∈ headers, isContentType e.1 = true ∧ e.2 = "application/json" := by
  simp [announcesJson]

theorem override_jsonHeaders_iff (distinct : stored.Distinct) :
    stored.Override (jsonHeaders stored) ↔ stored.SpelledPlainly := by
  have sent {e : String × String} := mem_jsonHeaders_iff distinct.nodup_names (e := e)
  refine ⟨fun h => (distinct_jsonHeaders_iff distinct).mp h.distinct, fun plain => ?_⟩
  refine ⟨fun e he => sent.mpr (.inl he), (distinct_jsonHeaders_iff distinct).mpr plain, ?_⟩
  rw [announcesJson_iff, announcesJson_iff]
  constructor
  · rintro ⟨e, held, typed, json⟩
    rcases sent.mp held with he | ⟨-, absent⟩
    · exact .inr ⟨e, he, typed, json⟩
    · refine .inl fun a ha => Bool.eq_false_iff.mpr fun typed => absent ?_
      exact List.mem_map.mpr ⟨a, ha, plain a ha typed⟩
  · rintro (none | ⟨e, he, typed, json⟩)
    · refine ⟨announcement, sent.mpr (.inr ⟨rfl, fun given => ?_⟩), by decide, rfl⟩
      obtain ⟨a, ha, named⟩ := List.mem_map.mp given
      have other := none a ha
      rw [named] at other
      exact absurd other (by decide)
    · exact ⟨e, sent.mpr (.inl he), typed, json⟩

end Headers

theorem FetchRequest.exists_plan_of_ne_mock {r : FetchRequest} (asks : r.kind ≠ .mock) :
    ∃ request, r.plan = .inr request ∧ request.headers = jsonHeaders r.headers := by
  rw [plan]
  cases kind : r.kind with
  | mock => exact absurd kind asks
  | rest | graphql => exact ⟨_, rfl, rfl⟩

/-- Where no two stored names are the same to HTTP, all stored headers are sent as they are, and
beside them that JSON comes, unless a Content-Type with these very capitals is stored. So a
stored Content-Type overrides the announcement of JSON just if it is spelled like that. -/
theorem stored_headers_override_iff {r : FetchRequest} (asks : r.kind ≠ .mock)
    (distinct : r.headers.Distinct) :
    ∃ request, r.plan = .inr request ∧
      (∀ e, e ∈ request.headers ↔ e ∈ r.headers ∨
        e = ("Content-Type", "application/json") ∧ "Content-Type" ∉ r.headers.map Prod.fst) ∧
      (r.headers.Override request.headers ↔ r.headers.SpelledPlainly) := by
  obtain ⟨request, asked, headers⟩ := FetchRequest.exists_plan_of_ne_mock asks
  refine ⟨request, asked, fun e => ?_, ?_⟩
  · rw [headers]
    exact Headers.mem_jsonHeaders_iff distinct.nodup_names
  · rw [headers]
    exact Headers.override_jsonHeaders_iff distinct

/-- A Content-Type of its own between other headers, one of which has a name that is no ASCII
and differs from another in the case of that letter alone. -/
theorem stored_headers_override_plain :
    let headers : Headers :=
      [("Accept", "*/*"), ("Content-Type", "text/csv"), ("x-É", "1"), ("x-é", "2")]
    let r : FetchRequest := ⟨.rest, "https://example.org", none, headers, .null⟩
    r.kind ≠ .mock ∧ headers.Distinct ∧
      ∃ request, r.plan = .inr request ∧ headers.Override request.headers := by
  intro headers r
  have asks : r.kind ≠ .mock := by decide
  have distinct : headers.Distinct := by decide
  obtain ⟨request, asked, -, override⟩ := stored_headers_override_iff asks distinct
  exact ⟨asks, distinct, request, asked, override.mpr (by decide)⟩

/-- Under a name in small letters the stored header is sent beside the one that it should
override. -/
theorem stored_headers_doubled :
    let headers : Headers := [("content-type", "text/csv")]
    let r : FetchRequest := ⟨.rest, "https://example.org", none, headers, .null⟩
    headers.Distinct ∧ ∃ request, r.plan = .inr request ∧
      request.headers = [("Content-Type", "application/json"), ("content-type", "text/csv")] ∧
      ¬headers.Override request.headers := by
  intro headers r
  refine ⟨by decide, _, rfl, by decide, fun override => ?_⟩
  exact absurd override.distinct (by decide)

end PageBuilder

import PageBuilder.Binding.Path
import PageBuilder.Proofs.Json.Objects
/-! Positions in a document, reached through members of objects and through those of the first
element of a list. The paths that are listed for a document are those of its positions, each
position once, depth first and in the order of the keys. -/
namespace PageBuilder.Binding

open Json (Value Members)

/-- One step down, to a member of an object or of the first element of a list. -/
inductive Hop where
  | member (key : String)
  | firstMember (key : String)
  deriving DecidableEq, Repr

namespace Hop

def key : Hop → String
  | .member key | .firstMember key => key

/-- The object whose member the hop goes to. -/
def members? : Hop → Value → Option Members
  | .member _, .object members => some members
  | .firstMember _, .array (.object members :: _) => some members
  | _, _ => none

def next? (hop : Hop) (v : Value) : Option Value :=
  (hop.members? v).bind (Assoc.get? hop.key)

theorem next?_member_eq_some_iff {key : String} {v w : Value} :
    (member key).next? v = some w ↔
      ∃ members, v = .object members ∧ Assoc.get? key members = some w := by
  cases v <;> simp [next?, members?, Hop.key]

theorem next?_firstMember_eq_some_iff {key : String} {v w : Value} :
    (firstMember key).next? v = some w ↔ ∃ members items,
      v = .array (.object members :: items) ∧ Assoc.get? key members = some w := by
  unfold next? members?
  split <;> simp_all [Hop.key]

end Hop

/-- A way down from the root. -/
abbrev Position := List Hop

def valueAt (v : Value) : Position → Option Value
  | [] => some v
  | hop :: rest => (hop.next? v).bind (valueAt · rest)

theorem valueAt_cons_eq_some_iff {v w : Value} {hop : Hop} {rest : Position} :
    valueAt v (hop :: rest) = some w ↔ ∃ u, hop.next? v = some u ∧ valueAt u rest = some w :=
  Option.bind_eq_some_iff

mutual

/-- The positions below a value, each before those inside it. -/
def positions : Value → List Position
  | .object members => positionsIn .member members
  | .array (.object first :: _) => positionsIn .firstMember first
  | _ => []

def positionsIn (hop : String → Hop) : Members → List Position
  | [] => []
  | (key, v) :: rest =>
    ([hop key] :: (positions v).map (hop key :: ·)) ++ positionsIn hop rest

end

/-- Induction along the positions: from the members that a value leads to, to the value. -/
theorem positions_induction {P : Value → Prop} {Q : Members → Prop}
    (object : ∀ members, Q members → P (.object members))
    (list : ∀ first rest, Q first → P (.array (.object first :: rest)))
    (closed : ∀ v, (∀ hop : Hop, hop.members? v = none) → P v)
    (nil : Q []) (cons : ∀ key v rest, P v → Q rest → Q ((key, v) :: rest)) :
    (∀ v, P v) ∧ ∀ members, Q members := by
  have steps := positions.mutual_induct P (fun _ members => Q members) object list ?_
    (fun _ => nil) (fun _ => cons)
  · exact ⟨steps.1, steps.2 .member⟩
  · intro v noObject noList
    refine closed v fun hop => ?_
    unfold Hop.members?
    split
    · exact (noObject _ rfl).elim
    · exact (noList _ _ rfl).elim
    · rfl

theorem positions_of_closed {v : Value} (h : ∀ hop : Hop, hop.members? v = none) :
    positions v = [] := by
  unfold positions
  split
  · exact nomatch h (.member "")
  · exact nomatch h (.firstMember "")
  · rfl

/-! ### Their paths -/

def textFrom (before : String) : Position → String
  | [] => before
  | .member key :: rest => textFrom (join before key) rest
  | .firstMember key :: rest => textFrom (join (before ++ "[0]") key) rest

/-- The path that is listed for a position. Below a list at the root it begins with `0.`. -/
def pathOf : Position → String
  | .firstMember key :: rest => textFrom (join "0" key) rest
  | position => textFrom "" position

/-- The paths inside a value whose own path is `before`. -/
def fieldsInside (before : String) : Value → List String
  | .object inner => fieldsOf before inner
  | .array (.object first :: _) => fieldsOf (before ++ "[0]") first
  | _ => []

theorem fieldsOf_cons (before key : String) (v : Value) (rest : Members) :
    fieldsOf before ((key, v) :: rest) =
      (join before key :: fieldsInside (join before key) v) ++ fieldsOf before rest := by
  unfold fieldsInside
  split
  · rw [fieldsOf]
  · rw [fieldsOf]
  · rw [fieldsOf]
    · assumption
    · assumption

theorem fieldsInside_of_closed {v : Value} (h : ∀ hop : Hop, hop.members? v = none)
    (before : String) : fieldsInside before v = [] := by
  unfold fieldsInside
  split
  · exact nomatch h (.member "")
  · exact nomatch h (.firstMember "")
  · rfl

/-- `text` writes the positions in an object that is called `before`. -/
theorem fieldsOf_eq_map (hop : String → Hop) (members : Members) (before : String)
    (text : Position → String)
    (writes : ∀ key rest, text (hop key :: rest) = textFrom (join before key) rest) :
    fieldsOf before members = (positionsIn hop members).map text := by
  refine (positions_induction
    (P := fun v => ∀ before, fieldsInside before v = (positions v).map (textFrom before))
    (Q := fun members => ∀ hop before (text : Position → String),
      (∀ key rest, text (hop key :: rest) = textFrom (join before key) rest) →
      fieldsOf before members = (positionsIn hop members).map text)
    ?object ?list ?closed ?nil ?cons).2 members hop before text writes
  case object =>
    intro members inside before
    exact inside .member before _ fun _ _ => rfl
  case list =>
    intro first _ inside before
    exact inside .firstMember (before ++ "[0]") _ fun _ _ => rfl
  case closed =>
    intro v none before
    rw [positions_of_closed none, fieldsInside_of_closed none, List.map_nil]
  case nil =>
    intro hop before text _
    rw [fieldsOf, positionsIn, List.map_nil]
  case cons =>
    intro key v rest inside later hop before text writes
    have below : (positions v).map (textFrom (join before key)) =
        ((positions v).map (hop key :: ·)).map text := by
      rw [List.map_map]
      exact List.map_congr_left fun position _ => (writes key position).symm
    have here : join before key = text [hop key] := (writes key []).symm
    rw [fieldsOf_cons, positionsIn, List.map_append, List.map_cons, ← later hop before text writes,
      ← below, ← here, ← inside]

theorem fields_eq_map (data : Value) : fields data = (positions data).map pathOf := by
  cases data with
  | object members => exact fieldsOf_eq_map .member members "" pathOf fun _ _ => rfl
  | array items =>
    match items with
    | .object first :: _ => exact fieldsOf_eq_map .firstMember first "0" pathOf fun _ _ => rfl
    | [] | .null :: _ | .bool _ :: _ | .number _ :: _ | .string _ :: _ | .array _ :: _ => rfl
  | _ => rfl

/-! ### Which positions there are -/

theorem isSome_valueAt_cons {v : Value} {hop : Hop} {rest : Position} :
    (valueAt v (hop :: rest)).isSome = true ↔
      ∃ w, hop.next? v = some w ∧ (valueAt w rest).isSome = true := by
  rw [valueAt, Option.isSome_bind, Option.any_eq_true]

theorem exists_of_mem_positionsIn {hop : String → Hop} {members : Members} {position : Position}
    (h : position ∈ positionsIn hop members) :
    ∃ key rest, position = hop key :: rest ∧ key ∈ Assoc.keys members := by
  induction members with
  | nil => cases h
  | cons m later ih =>
    rw [positionsIn, List.mem_append, List.mem_cons, List.mem_map] at h
    rcases h with (rfl | ⟨below, -, rfl⟩) | h
    · exact ⟨m.1, [], rfl, List.mem_cons_self ..⟩
    · exact ⟨m.1, below, rfl, List.mem_cons_self ..⟩
    · obtain ⟨key, rest, rfl, known⟩ := ih h
      exact ⟨key, rest, rfl, List.mem_cons_of_mem _ known⟩

theorem mem_positions_iff {v : Value} (distinct : v.Distinct) {position : Position} :
    position ∈ positions v ↔ position ≠ [] ∧ (valueAt v position).isSome = true := by
  refine (positions_induction
    (P := fun v => v.Distinct → ∀ position,
      position ∈ positions v ↔ position ≠ [] ∧ (valueAt v position).isSome = true)
    (Q := fun members => (Assoc.keys members).Nodup → (∀ m ∈ members, m.2.Distinct) →
      ∀ hop position, position ∈ positionsIn hop members ↔ ∃ key rest w,
        position = hop key :: rest ∧ Assoc.get? key members = some w ∧
          (valueAt w rest).isSome = true)
    ?object ?list ?closed ?nil ?cons).1 v distinct position
  case object =>
    intro members inside distinct position
    obtain ⟨keys, values⟩ := Value.distinct_object_iff.mp distinct
    rw [positions, inside keys values]
    rcases position with _ | ⟨_ | _, rest⟩
    · simp
    · simp [isSome_valueAt_cons, Hop.next?, Hop.members?, Hop.key]
    · simp [valueAt, Hop.next?, Hop.members?]
  case list =>
    intro first items inside distinct position
    obtain ⟨keys, values⟩ := Value.distinct_object_iff.mp
      (Value.distinct_array_iff.mp distinct _ (List.mem_cons_self ..))
    rw [positions, inside keys values]
    rcases position with _ | ⟨_ | _, rest⟩
    · simp
    · simp [valueAt, Hop.next?, Hop.members?]
    · simp [isSome_valueAt_cons, Hop.next?, Hop.members?, Hop.key]
  case closed =>
    intro v none _ position
    rw [positions_of_closed none]
    rcases position with _ | ⟨hop, rest⟩
    · simp
    · simp [valueAt, Hop.next?, none hop]
  case nil =>
    intro _ _ hop position
    simp [positionsIn]
  case cons =>
    intro key v later inside behind keys values hop position
    obtain ⟨fresh, keys⟩ := List.nodup_cons.mp keys
    obtain ⟨here, values⟩ := List.forall_mem_cons.mp values
    rw [positionsIn, List.mem_append, List.mem_cons, List.mem_map, behind keys values]
    constructor
    · rintro ((rfl | ⟨below, reached, rfl⟩) | ⟨other, rest, w, rfl, found, reached⟩)
      · exact ⟨key, [], v, rfl, Assoc.get?_cons_self .., rfl⟩
      · exact ⟨key, below, v, rfl, Assoc.get?_cons_self .., ((inside here below).mp reached).2⟩
      · have differs : key ≠ other := by
          rintro rfl
          exact fresh (List.mem_map.mpr ⟨_, Assoc.mem_of_get?_eq_some found, rfl⟩)
        exact ⟨other, rest, w, rfl, (if_neg differs).trans found, reached⟩
    · rintro ⟨other, rest, w, rfl, found, reached⟩
      rw [Assoc.get?_cons] at found
      split at found
      · rename_i same
        cases found
        subst same
        left
        by_cases last : rest = []
        · exact .inl (last ▸ rfl)
        · exact .inr ⟨rest, (inside here rest).mpr ⟨last, reached⟩, rfl⟩
      · exact .inr ⟨other, rest, w, rfl, found, reached⟩

/-! ### Their order -/

/-- The place of the hop's key among the keys of its object. -/
def Hop.rank (hop : Hop) (v : Value) : Nat :=
  (hop.members? v).elim 0 fun members => (Assoc.keys members).idxOf hop.key

/-- The places of the keys on the way down. By these a position stands before those inside it,
and of two others the one whose key comes first where they part. -/
def ranks (v : Value) : Position → List Nat
  | [] => []
  | hop :: rest => hop.rank v :: (hop.next? v).elim [] (ranks · rest)

theorem ranks_pos {v : Value} {position : Position} (h : position ≠ []) :
    [] < ranks v position := by
  cases position with
  | nil => exact absurd rfl h
  | cons hop rest => exact List.nil_lt_cons _ _

theorem ne_nil_of_mem_positions {v : Value} {position : Position} (h : position ∈ positions v) :
    position ≠ [] := by
  unfold positions at h
  split at h
  · obtain ⟨_, _, rfl, _⟩ := exists_of_mem_positionsIn h
    exact List.cons_ne_nil _ _
  · obtain ⟨_, _, rfl, _⟩ := exists_of_mem_positionsIn h
    exact List.cons_ne_nil _ _
  · cases h

section

variable {earlier later : Members} {key : String} {v whole : Value} {hop : Hop}

theorem not_mem_keys_earlier (keys : (Assoc.keys (earlier ++ (key, v) :: later)).Nodup) :
    key ∉ Assoc.keys earlier := by
  intro known
  rw [Assoc.keys_append, List.nodup_append] at keys
  exact keys.2.2 key known key (List.mem_cons_self ..) rfl

/-- The way to a member goes on in its value, and counts the members before it. -/
theorem ranks_cons_of_members? (members : hop.members? whole = some (earlier ++ (key, v) :: later))
    (named : hop.key = key) (fresh : key ∉ Assoc.keys earlier) (rest : Position) :
    ranks whole (hop :: rest) = earlier.length :: ranks v rest := by
  have place : hop.rank whole = earlier.length := by
    rw [Hop.rank, members, Option.elim_some, named, Assoc.keys_append,
      List.idxOf_append_of_notMem fresh, Assoc.length_keys]
    exact Nat.add_eq_left.mpr (List.idxOf_cons_self ..)
  have next : hop.next? whole = some v := by
    rw [Hop.next?, members, Option.bind_some, named, Assoc.get?_append,
      Assoc.get?_eq_none_iff.mpr fresh, Option.none_or, Assoc.get?_cons_self]
  rw [ranks, place, next, Option.elim_some]

theorem length_lt_rank (members : hop.members? whole = some (earlier ++ (key, v) :: later))
    (fresh : hop.key ∉ Assoc.keys (earlier ++ [(key, v)])) : earlier.length < hop.rank whole := by
  have split : earlier ++ (key, v) :: later = (earlier ++ [(key, v)]) ++ later := by simp
  rw [Hop.rank, members, Option.elim_some, split, Assoc.keys_append,
    List.idxOf_append_of_notMem fresh, Assoc.length_keys, List.length_append, List.length_singleton]
  omega

theorem ranks_lt_of_mem_later {hop : String → Hop} (named : ∀ key, (hop key).key = key)
    (members : ∀ key', (hop key').members? whole = some (earlier ++ (key, v) :: later))
    (keys : (Assoc.keys (earlier ++ (key, v) :: later)).Nodup) (rest : Position) {q : Position}
    (hq : q ∈ positionsIn hop later) : ranks whole (hop key :: rest) < ranks whole q := by
  obtain ⟨other, rest', rfl, known⟩ := exists_of_mem_positionsIn hq
  have split : earlier ++ (key, v) :: later = (earlier ++ [(key, v)]) ++ later := by simp
  have apart : (hop other).key ∉ Assoc.keys (earlier ++ [(key, v)]) := by
    intro held
    rw [split, Assoc.keys_append, List.nodup_append] at keys
    exact keys.2.2 _ held _ known (named other)
  rw [ranks_cons_of_members? (members key) (named key) (not_mem_keys_earlier keys), ranks]
  exact List.cons_lt_cons_iff.mpr (.inl (length_lt_rank (members other) apart))

end

theorem pairwise_ranks_positions {v : Value} (distinct : v.Distinct) :
    (positions v).Pairwise fun p q => ranks v p < ranks v q := by
  refine (positions_induction
    (P := fun v => v.Distinct → (positions v).Pairwise fun p q => ranks v p < ranks v q)
    (Q := fun members => ∀ earlier, (Assoc.keys (earlier ++ members)).Nodup →
      (∀ m ∈ members, m.2.Distinct) → ∀ (hop : String → Hop) whole, (∀ key, (hop key).key = key) →
      (∀ key, (hop key).members? whole = some (earlier ++ members)) →
      (positionsIn hop members).Pairwise fun p q => ranks whole p < ranks whole q)
    ?object ?list ?closed ?nil ?cons).1 v distinct
  case object =>
    intro members inside distinct
    obtain ⟨keys, values⟩ := Value.distinct_object_iff.mp distinct
    exact inside [] keys values .member _ (fun _ => rfl) fun _ => rfl
  case list =>
    intro first items inside distinct
    obtain ⟨keys, values⟩ := Value.distinct_object_iff.mp
      (Value.distinct_array_iff.mp distinct _ (List.mem_cons_self ..))
    exact inside [] keys values .firstMember _ (fun _ => rfl) fun _ => rfl
  case closed =>
    intro v none _
    rw [positions_of_closed none]
    exact List.Pairwise.nil
  case nil =>
    intro _ _ _ hop whole _ _
    rw [positionsIn]
    exact List.Pairwise.nil
  case cons =>
    intro key v later inside behind earlier keys values hop whole named members
    obtain ⟨here, values⟩ := List.forall_mem_cons.mp values
    have split : earlier ++ (key, v) :: later = (earlier ++ [(key, v)]) ++ later := by simp
    have counted (rest : Position) :
        ranks whole (hop key :: rest) = earlier.length :: ranks v rest :=
      ranks_cons_of_members? (members key) (named key) (not_mem_keys_earlier keys) rest
    rw [positionsIn]
    refine List.pairwise_append.mpr ⟨List.pairwise_cons.mpr ⟨?_, ?_⟩, ?_, ?_⟩
    · intro q hq
      obtain ⟨below, reached, rfl⟩ := List.mem_map.mp hq
      rw [counted, counted]
      exact List.cons_lt_cons_self.mpr (ranks_pos (ne_nil_of_mem_positions reached))
    · refine List.pairwise_map.mpr ((inside here).imp fun less => ?_)
      rw [counted, counted]
      exact List.cons_lt_cons_self.mpr less
    · rw [split] at keys members
      exact behind _ keys values hop whole named members
    · intro p hp q hq
      rcases List.mem_cons.mp hp with rfl | hp
      · exact ranks_lt_of_mem_later named members keys [] hq
      · obtain ⟨below, -, rfl⟩ := List.mem_map.mp hp
        exact ranks_lt_of_mem_later named members keys below hq

theorem nodup_positions {v : Value} (distinct : v.Distinct) : (positions v).Nodup := by
  apply (pairwise_ranks_positions distinct).imp
  rintro p q less rfl
  exact List.lt_irrefl _ less

end PageBuilder.Binding

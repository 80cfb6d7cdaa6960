import PageBuilder.Json.Value
/-! What sameness of values is. Lists are the same element by element and objects key
by key, whatever the order of their members; an integer is no float, and the two
zeros are one number. -/
namespace PageBuilder.Json

open Decimal (Binary64)

/-! ### Members in the order of their keys -/

/-- Every key is below those after it. -/
def InOrder (members : Members) : Prop :=
  members.Pairwise fun m n => m.1 < n.1

theorem get?_insertMember (key : String) (value : Value) (members : Members) (other : String) :
    Assoc.get? other (insertMember key value members) =
      if key = other then some value else Assoc.get? other members := by
  induction members with
  | nil => rfl
  | cons m rest ih =>
    rcases m with ⟨k, v⟩
    by_cases hk : key = k
    · subst hk
      simp only [insertMember, if_pos, Assoc.get?_cons]
      split <;> rfl
    · by_cases hlt : key < k
      · simp only [insertMember, if_neg hk, if_pos hlt, Assoc.get?_cons]
      · simp only [insertMember, if_neg hk, if_neg hlt, Assoc.get?_cons, ih]
        by_cases ho : k = other
        · have : key ≠ other := fun h => hk (h.trans ho.symm)
          simp [ho, this]
        · simp [ho]

theorem eq_or_mem_of_mem_insertMember {key : String} {value : Value} {members : Members}
    {m : String × Value} (h : m ∈ insertMember key value members) :
    m = (key, value) ∨ m ∈ members := by
  induction members with
  | nil => exact .inl (List.mem_singleton.mp h)
  | cons n rest ih =>
    rw [insertMember] at h
    split at h
    · exact (List.mem_cons.mp h).imp_right (List.mem_cons_of_mem _)
    · split at h
      · exact List.mem_cons.mp h
      · rcases List.mem_cons.mp h with rfl | h
        · exact .inr (List.mem_cons_self ..)
        · exact (ih h).imp_right (List.mem_cons_of_mem _)

theorem InOrder.insertMember {members : Members} (h : InOrder members) (key : String)
    (value : Value) : InOrder (insertMember key value members) := by
  induction members with
  | nil => exact List.pairwise_singleton _ _
  | cons n rest ih =>
    rcases n with ⟨k, v⟩
    obtain ⟨below, ordered⟩ := List.pairwise_cons.mp h
    by_cases same : key = k
    · subst same
      rw [Json.insertMember, if_pos rfl]
      exact List.pairwise_cons.mpr ⟨below, ordered⟩
    rw [Json.insertMember, if_neg same]
    split
    · rename_i less
      refine List.pairwise_cons.mpr ⟨fun n hn => ?_, h⟩
      rcases List.mem_cons.mp hn with rfl | hn
      · exact less
      · exact String.lt_trans less (below n hn)
    · rename_i notLess
      have greater : k < key :=
        String.not_le.mp fun le => same (String.le_antisymm (String.not_lt.mp notLess) le).symm
      refine List.pairwise_cons.mpr ⟨fun n hn => ?_, ih ordered⟩
      rcases eq_or_mem_of_mem_insertMember hn with rfl | hn
      · exact greater
      · exact below n hn

/-- A key that is found behind the first member is above that. -/
theorem InOrder.lt_of_get? {k key : String} {v w : Value} {rest : Members}
    (h : InOrder ((k, v) :: rest)) (found : Assoc.get? key rest = some w) : k < key :=
  (List.pairwise_cons.mp h).1 (key, w) (Assoc.mem_of_get?_eq_some found)

theorem InOrder.get?_head {k : String} {v : Value} {rest : Members}
    (h : InOrder ((k, v) :: rest)) : Assoc.get? k rest = none := by
  cases found : Assoc.get? k rest with
  | none => rfl
  | some w => exact absurd (h.lt_of_get? found) (String.lt_irrefl k)

/-- Members in order are known by what is found under each key. -/
theorem InOrder.ext {ms ns : Members} (hm : InOrder ms) (hn : InOrder ns)
    (same : ∀ key, Assoc.get? key ms = Assoc.get? key ns) : ms = ns := by
  induction ms generalizing ns with
  | nil =>
    cases ns with
    | nil => rfl
    | cons n ns => simpa [Assoc.get?] using same n.1
  | cons m ms ih =>
    rcases m with ⟨k, v⟩
    cases ns with
    | nil => simpa [Assoc.get?] using same k
    | cons n ns =>
      rcases n with ⟨l, w⟩
      have keys : k = l := by
        by_cases h : k = l
        · exact h
        · have left : Assoc.get? l ms = some w := by simpa [Assoc.get?, h] using same l
          have right : Assoc.get? k ns = some v := by
            simpa [Assoc.get?, Ne.symm h] using (same k).symm
          exact absurd (hn.lt_of_get? right) (String.lt_asymm (hm.lt_of_get? left))
      subst keys
      have values : v = w := by simpa [Assoc.get?] using same k
      have tails : ms = ns := by
        refine ih (List.pairwise_cons.mp hm).2 (List.pairwise_cons.mp hn).2 fun key => ?_
        by_cases h : k = key
        · subst h
          rw [hm.get?_head, hn.get?_head]
        · simpa [Assoc.get?, h] using same key
      rw [values, tails]

/-! ### Canonical forms -/

theorem canonicalItems_eq_map (items : List Value) :
    canonicalItems items = items.map Value.canonical := by
  induction items with
  | nil => rfl
  | cons v rest ih => rw [canonicalItems, ih, List.map_cons]

theorem get?_canonicalMembers (key : String) (members : Members) :
    Assoc.get? key (canonicalMembers members) = (Assoc.get? key members).map Value.canonical := by
  induction members with
  | nil => rfl
  | cons m rest ih =>
    rw [canonicalMembers, get?_insertMember, ih, Assoc.get?_cons]
    split <;> rfl

theorem inOrder_canonicalMembers (members : Members) : InOrder (canonicalMembers members) := by
  induction members with
  | nil => exact .nil
  | cons m rest ih =>
    rw [canonicalMembers]
    exact ih.insertMember ..

theorem canonicalMembers_eq_iff {ms ns : Members} :
    canonicalMembers ms = canonicalMembers ns ↔
      ∀ key, (Assoc.get? key ms).map Value.canonical = (Assoc.get? key ns).map Value.canonical := by
  constructor
  · intro h key
    rw [← get?_canonicalMembers, ← get?_canonicalMembers, h]
  · intro h
    refine (inOrder_canonicalMembers ms).ext (inOrder_canonicalMembers ns) fun key => ?_
    rw [get?_canonicalMembers, get?_canonicalMembers, h key]

/-! ### Agreement -/

/-- Equality of numbers. -/
inductive Number.Agree : Number → Number → Prop where
  | refl (n : Number) : Agree n n
  | zero {x y : Binary64} (hx : x.isZero = true) (hy : y.isZero = true) :
    Agree (.float x) (.float y)

/-- Equality of values as data. -/
inductive Value.Agree : Value → Value → Prop where
  | null : Agree .null .null
  | bool (b : Bool) : Agree (.bool b) (.bool b)
  | number {m n : Number} (h : m.Agree n) : Agree (.number m) (.number n)
  | string (s : String) : Agree (.string s) (.string s)
  | array {vs ws : List Value} (length : vs.length = ws.length)
    (elements : ∀ (i : Nat) (v w : Value), vs[i]? = some v → ws[i]? = some w → Agree v w) :
    Agree (.array vs) (.array ws)
  | object {ms ns : Members} (keys : ∀ key, Assoc.get? key ms = none ↔ Assoc.get? key ns = none)
    (members : ∀ (key : String) (v w : Value), Assoc.get? key ms = some v →
      Assoc.get? key ns = some w → Agree v w) :
    Agree (.object ms) (.object ns)

theorem Number.agree_of_canonical_eq {x y : Binary64} (h : x.canonical = y.canonical) :
    Agree (.float x) (.float y) := by
  unfold Binary64.canonical at h
  split at h <;> split at h
  · exact .zero ‹_› ‹_›
  · rename_i hx hy
    exact absurd (h ▸ rfl) hy
  · rename_i hx hy
    exact absurd (h ▸ rfl) hx
  · rw [h]
    exact .refl _

theorem Number.canonical_eq_iff {m n : Number} : m.canonical = n.canonical ↔ m.Agree n := by
  constructor
  · intro h
    cases m <;> cases n <;> simp only [canonical, integer.injEq, float.injEq, reduceCtorEq] at h
    · rw [h]
      exact .refl _
    · exact agree_of_canonical_eq h
  · intro h
    cases h with
    | refl => rfl
    | zero hx hy => simp [canonical, Binary64.canonical, hx, hy]

namespace Value

theorem Agree.canonical_eq {v w : Value} (h : v.Agree w) : v.canonical = w.canonical := by
  induction h with
  | null | bool | string => rfl
  | number h => rw [canonical, canonical, Number.canonical_eq_iff.mpr h]
  | @array vs ws length elements ih =>
    rw [canonical, canonical, canonicalItems_eq_map, canonicalItems_eq_map]
    congr 1
    refine List.ext_getElem (by simp [length]) fun i hi hi' => ?_
    rw [List.getElem_map, List.getElem_map]
    exact ih i _ _ (List.getElem?_eq_getElem _) (List.getElem?_eq_getElem _)
  | @object ms ns keys members ih =>
    rw [canonical, canonical]
    congr 1
    refine canonicalMembers_eq_iff.mpr fun key => ?_
    cases hm : Assoc.get? key ms with
    | none => rw [(keys key).mp hm]
    | some v =>
      cases hn : Assoc.get? key ns with
      | none => simp [(keys key).mpr hn] at hm
      | some w => simp [ih key v w hm hn]

theorem agree_of_canonical_eq (v w : Value) (h : v.canonical = w.canonical) : v.Agree w := by
  induction v using Value.induction generalizing w with
  | null =>
    cases w <;> simp only [canonical, reduceCtorEq] at h
    exact .null
  | bool b =>
    cases w <;> simp only [canonical, reduceCtorEq] at h
    cases h
    exact .bool b
  | number m =>
    cases w <;> simp only [canonical, reduceCtorEq] at h
    exact .number (Number.canonical_eq_iff.mp (number.inj h))
  | string s =>
    cases w <;> simp only [canonical, reduceCtorEq] at h
    cases h
    exact .string s
  | array vs ih =>
    cases w <;> simp only [canonical, reduceCtorEq] at h
    rename_i ws
    rw [array.injEq, canonicalItems_eq_map, canonicalItems_eq_map] at h
    refine .array (by simpa using congrArg List.length h) fun i v w hv hw => ?_
    have same := congrArg (·[i]?) h
    simp only [List.getElem?_map, hv, hw, Option.map_some, Option.some.injEq] at same
    exact ih v (List.mem_of_getElem? hv) w same
  | object ms ih =>
    cases w <;> simp only [canonical, reduceCtorEq] at h
    have found := canonicalMembers_eq_iff.mp (object.inj h)
    refine .object (fun key => ?_) fun key v w hv hw => ?_
    · rw [← Option.map_eq_none_iff (f := canonical), found key, Option.map_eq_none_iff]
    · have same := found key
      simp only [hv, hw, Option.map_some, Option.some.injEq] at same
      exact ih (key, v) (Assoc.mem_of_get?_eq_some hv) w same

theorem agree_iff {v w : Value} : v.Agree w ↔ v.canonical = w.canonical :=
  ⟨Agree.canonical_eq, agree_of_canonical_eq v w⟩

@[refl] theorem Agree.refl (v : Value) : v.Agree v :=
  agree_iff.mpr rfl

/-! What is looked up in values that agree. -/

theorem Agree.string? {v w : Value} (h : v.Agree w) : v.string? = w.string? := by
  cases h <;> rfl

theorem Agree.member? {v w : Value} (h : v.Agree w) (key : String) :
    Option.Rel Agree (v.member? key) (w.member? key) := by
  cases h with
  | @object ms ns keys members =>
    simp only [Value.member?]
    cases hm : Assoc.get? key ms with
    | none =>
      rw [(keys key).mp hm]
      exact .none
    | some v =>
      cases hn : Assoc.get? key ns with
      | none => simp [(keys key).mpr hn] at hm
      | some w => exact .some (members key v w hm hn)
  | _ => exact .none

end Value

end PageBuilder.Json

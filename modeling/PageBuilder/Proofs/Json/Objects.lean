import Mathlib.Data.List.Nodup
import PageBuilder.Json.Parser
import PageBuilder.Proofs.Json.Shape
/-! The objects inside a value, and values in which none of them has a key twice. A text that is
read gives such a value: a key that comes again only changes its member. -/
namespace PageBuilder.Json

mutual

/-- The members of every object inside a value, an outer one before those in it. -/
def Value.objects : Value → List Members
  | .array items => objectsOfItems items
  | .object members => members :: objectsOfMembers members
  | _ => []

def objectsOfItems : List Value → List Members
  | [] => []
  | v :: rest => v.objects ++ objectsOfItems rest

def objectsOfMembers : Members → List Members
  | [] => []
  | (_, v) :: rest => v.objects ++ objectsOfMembers rest

end

theorem objectsOfItems_eq_flatMap (items : List Value) :
    objectsOfItems items = items.flatMap Value.objects := by
  induction items with
  | nil => rfl
  | cons v rest ih => rw [objectsOfItems, ih, List.flatMap_cons]

theorem objectsOfMembers_eq_flatMap (members : Members) :
    objectsOfMembers members = members.flatMap fun m => m.2.objects := by
  induction members with
  | nil => rfl
  | cons m rest ih => rw [objectsOfMembers, ih, List.flatMap_cons]

namespace Value

/-- Every object inside the value has the property. -/
def AllObjects (P : Members → Prop) (v : Value) : Prop :=
  ∀ members ∈ v.objects, P members

instance {P : Members → Prop} [DecidablePred P] (v : Value) : Decidable (v.AllObjects P) :=
  inferInstanceAs (Decidable (∀ members ∈ v.objects, P members))

/-- No object inside the value has two members under one key. -/
def Distinct (v : Value) : Prop :=
  v.AllObjects fun members => (Assoc.keys members).Nodup

instance (v : Value) : Decidable v.Distinct :=
  inferInstanceAs (Decidable (v.AllObjects _))

theorem allObjects_array_iff {P : Members → Prop} {items : List Value} :
    (array items).AllObjects P ↔ ∀ v ∈ items, v.AllObjects P := by
  rw [AllObjects, objects, objectsOfItems_eq_flatMap, List.forall_mem_flatMap]
  rfl

theorem allObjects_object_iff {P : Members → Prop} {members : Members} :
    (object members).AllObjects P ↔ P members ∧ ∀ m ∈ members, m.2.AllObjects P := by
  rw [AllObjects, objects, objectsOfMembers_eq_flatMap, List.forall_mem_cons,
    List.forall_mem_flatMap]
  rfl

theorem distinct_array_iff {items : List Value} :
    (array items).Distinct ↔ ∀ v ∈ items, v.Distinct :=
  allObjects_array_iff

theorem distinct_object_iff {members : Members} :
    (object members).Distinct ↔ (Assoc.keys members).Nodup ∧ ∀ m ∈ members, m.2.Distinct :=
  allObjects_object_iff

theorem distinct_of_objects_eq_nil {v : Value} (h : v.objects = []) : v.Distinct := by
  simp [Distinct, AllObjects, h]

end Value

/-! ### What is read from a text -/

namespace Scan

variable {α β : Type}

/-- Whatever the reader gives has the property. -/
def Gives (P : α → Prop) (s : Scan α) : Prop :=
  ∀ c r, s.run c = .ok r → P r.1

section

variable {P : α → Prop} {f : β → Scan α}

theorem Gives.bind {Q : β → Prop} {s : Scan β} (first : Gives Q s)
    (next : ∀ b, Q b → Gives P (f b)) : Gives P (s >>= f) := by
  intro c r h
  rw [StateT.run_bind] at h
  obtain ⟨b, read, rest⟩ := bind_eq_ok_iff.mp h
  exact next b.1 (first c b read) b.2 r rest

/-- Nothing is asked of what is read before. -/
theorem Gives.behind (s : Scan β) (next : ∀ b, Gives P (f b)) : Gives P (s >>= f) :=
  Gives.bind (Q := fun _ => True) (fun _ _ _ => trivial) fun b _ => next b

theorem gives_pure {a : α} (h : P a) : Gives P (pure a : Scan α) := by
  rintro c r ⟨⟩
  exact h

theorem gives_failPast (cause : Cause) : Gives P (failPast cause : Scan α) := by
  intro c r h
  cases h

end

theorem gives_scalar (c : Char) : Gives Value.Distinct (scalar c) := by
  have plain {v : Value} (h : v.objects = []) : Gives Value.Distinct (pure v : Scan Value) :=
    gives_pure (Value.distinct_of_objects_eq_nil h)
  unfold scalar
  split
  · exact .behind _ fun _ => .behind _ fun _ => plain rfl
  · exact .behind _ fun _ => .behind _ fun _ => plain rfl
  · exact .behind _ fun _ => .behind _ fun _ => plain rfl
  · exact .behind _ fun _ => .behind _ fun _ => plain rfl
  · exact .behind _ fun _ => plain rfl
  · split
    · exact .behind _ fun _ => plain rfl
    · exact gives_failPast _

/-- The induction is on the steps that are left, for values, elements and members at once. What
was read of a container before is distinct too. -/
theorem gives_distinct (steps : Nat) :
    (∀ depth, Gives Value.Distinct (value steps depth)) ∧
      (∀ depth first done, (∀ v ∈ done, v.Distinct) →
        Gives (fun items => (Value.array items).Distinct) (items steps depth first done)) ∧
      ∀ depth first done, (Value.object done).Distinct →
        Gives (fun members => (Value.object members).Distinct)
          (members steps depth first done) := by
  induction steps with
  | zero =>
    refine ⟨fun _ => ?_, fun _ _ _ _ => ?_, fun _ _ _ _ => ?_⟩
    · unfold value
      exact gives_failPast _
    · unfold items
      exact gives_failPast _
    · unfold members
      exact gives_failPast _
  | succ steps ih =>
    obtain ⟨values, elements, entries⟩ := ih
    refine ⟨fun depth => ?_, fun depth first done held => ?_, fun depth first done held => ?_⟩
    · unfold value
      refine .behind _ fun next => ?_
      split
      · exact gives_failPast _
      · exact .behind _ fun depth =>
          (elements depth true [] (by simp)).bind fun _ distinct => gives_pure distinct
      · exact .behind _ fun depth =>
          (entries depth true [] (by decide)).bind fun _ distinct => gives_pure distinct
      · exact gives_scalar _
    · unfold items
      refine .behind _ fun another => ?_
      split
      · refine (values depth).bind fun v distinct => elements depth false _ ?_
        exact List.forall_mem_cons.mpr ⟨distinct, held⟩
      · refine .behind _ fun _ => gives_pure (Value.distinct_array_iff.mpr ?_)
        simpa using held
    · unfold members
      refine .behind _ fun another => ?_
      split
      · obtain ⟨keys, held⟩ := Value.distinct_object_iff.mp held
        refine .behind _ fun key => .behind _ fun _ => (values depth).bind fun v distinct => ?_
        refine entries depth false _ (Value.distinct_object_iff.mpr ⟨?_, fun m hm => ?_⟩)
        · exact Assoc.nodup_keys_put keys key v
        · rcases Assoc.eq_or_mem_of_mem_put hm with rfl | hm
          · exact distinct
          · exact held m hm
      · exact .behind _ fun _ => gives_pure held

end Scan

theorem distinct_of_parse {text : String} {v : Value} (h : parse text = .ok v) : v.Distinct := by
  unfold parse readAll at h
  obtain ⟨⟨w, after⟩, read, rest⟩ := bind_eq_ok_iff.mp h
  obtain ⟨⟨next, after'⟩, -, rest⟩ := bind_eq_ok_iff.mp rest
  cases next with
  | none =>
    cases rest
    exact (Scan.gives_distinct _).1 _ _ _ read
  | some c => cases rest

end PageBuilder.Json

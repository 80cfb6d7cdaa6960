import Mathlib.Data.List.Nodup
import PageBuilder.Proofs.Json.Shape
/-! Records that take their values as they are: a required field holds a text, and an
optional one any value. Of an object such a record keeps the members of its fields, and
it reads every object whose required members are texts. -/
namespace PageBuilder.Json

/-! ### Members -/

namespace Value

/-- Without the members under other keys. -/
def restrict (keys : List String) : Value → Value
  | .object members => .object (members.filter fun m => m.1 ∈ keys)
  | v => v

theorem member?_restrict {key : String} {keys : List String} (h : key ∈ keys)
    (v : Value) : (v.restrict keys).member? key = v.member? key := by
  cases v with
  | object members =>
    simp only [restrict, member?]
    induction members with
    | nil => rfl
    | cons m rest ih =>
      rw [List.filter_cons, Assoc.get?_cons]
      split
      · rw [Assoc.get?_cons, ih]
      · rename_i out
        have other : m.1 ≠ key := by
          intro same
          simp [same, h] at out
        rw [ih, if_neg other]
  | _ => rfl

/-- The object has a member under the key, and every one that it has there is a text. -/
def HoldsText (key : String) : Value → Prop
  | .object members => (Assoc.get? key members).isSome = true ∧
      ∀ m ∈ members, m.1 = key → ∃ s, m.2 = .string s
  | _ => False

theorem HoldsText.member?_eq {key : String} {v : Value} (h : v.HoldsText key) :
    v.member? key = some (.string (v.textAt key)) := by
  cases v with
  | object members =>
    obtain ⟨w, found⟩ := Option.isSome_iff_exists.mp h.1
    obtain ⟨s, rfl : w = .string s⟩ := h.2 (key, w) (Assoc.mem_of_get?_eq_some found) rfl
    simp [textAt, textOr, member?, found, string?]
  | _ => exact h.elim

end Value

/-! ### Fields -/

namespace Field

/-- The record takes the value of the field as it is. -/
def isFlat : Field → Bool
  | .required _ .string => true
  | .optional _ .any => true
  | _ => false

/-- What a flat field asks of its value. -/
def Takes (f : Field) (v : Value) : Prop :=
  f.isRequired = true → ∃ s, v = .string s

theorem conform_eq_ok_iff {f : Field} (flat : f.isFlat = true) {v w : Value} :
    f.shape.conform v = .ok w ↔ f.Takes v ∧ v = w := by
  unfold isFlat at flat
  split at flat
  · cases v <;> simp [shape, Takes, isRequired, Shape.conform, conformString, wrongType]
  · simp [shape, Takes, isRequired]
  · cases flat

end Field

theorem conformMember_eq (fields : List Field) (key : String) (v : Value) :
    conformMember fields key v =
      match fields.find? fun f => f.name = key with
      | some f => (f.shape.conform v).map fun w => some (key, w)
      | none => .ok none := by
  induction fields with
  | nil => rfl
  | cons f rest ih =>
    rw [List.find?_cons]
    cases f with
    | required name shape | optional name shape =>
      by_cases same : name = key
      · simp [conformMember, Field.name, Field.shape, same, bind, Except.bind, pure,
          Except.pure, Except.map]
      · simpa [conformMember, Field.name, same] using ih

theorem firstMissing?_eq_none_iff {fields : List Field} {members : Members} :
    firstMissing? fields members = none ↔
      ∀ f ∈ fields, f.isRequired = true → (Assoc.get? f.name members).isSome = true := by
  simp [firstMissing?, List.find?_eq_none, Option.isSome_iff_ne_none]

/-! ### Objects -/

theorem filterMapM_eq_ok_iff {ε α β : Type} {f : α → Except ε (Option β)} {P : α → Prop}
    {g : α → Option β} (h : ∀ a r, f a = .ok r ↔ P a ∧ g a = r) {l : List α} {known : List β} :
    l.filterMapM f = .ok known ↔ (∀ a ∈ l, P a) ∧ l.filterMap g = known := by
  induction l generalizing known with
  | nil => simp [pure, Except.pure]
  | cons a rest ih =>
    rw [List.filterMapM_cons, List.forall_mem_cons, List.filterMap_cons]
    simp only [bind_eq_ok_iff, h, and_assoc, exists_and_left, exists_eq_left']
    refine and_congr_right fun _ => ?_
    cases g a with
    | none => exact ih
    | some b => simp [bind_eq_ok_iff, ih, and_assoc, pure, Except.pure]

section

variable {fields : List Field} (flat : ∀ f ∈ fields, f.isFlat = true)
  (distinct : (fields.map Field.name).Nodup)
include flat distinct

theorem conformMember_eq_ok_iff {key : String} {v : Value} {result : Option (String × Value)} :
    conformMember fields key v = .ok result ↔
      (∀ f ∈ fields, f.name = key → f.Takes v) ∧
        Option.guard (fun m => m.1 ∈ fields.map Field.name) (key, v) = result := by
  rw [conformMember_eq]
  cases found : fields.find? fun f => f.name = key with
  | none =>
    have unknown : ∀ f ∈ fields, f.name ≠ key := by simpa using List.find?_eq_none.mp found
    have dropped : Option.guard (fun m => m.1 ∈ fields.map Field.name) (key, v) = none := by
      simpa [Option.guard] using unknown
    rw [dropped, Except.ok.injEq, iff_and_self]
    exact fun _ f hf hk => absurd hk (unknown f hf)
  | some f =>
    have hf := List.mem_of_find?_eq_some found
    obtain rfl : f.name = key := by simpa using List.find?_some found
    have only : (∀ g ∈ fields, g.name = f.name → g.Takes v) ↔ f.Takes v := by
      constructor
      · exact fun takes => takes f hf rfl
      · intro takes g hg hk
        rwa [List.inj_on_of_nodup_map distinct hg hf hk]
    have kept : Option.guard (fun m => m.1 ∈ fields.map Field.name) (f.name, v) =
        some (f.name, v) := by
      simpa [Option.guard] using ⟨f, hf, rfl⟩
    rw [only, kept]
    simp only [map_eq_ok_iff, Field.conform_eq_ok_iff (flat f hf), and_assoc, exists_and_left,
      exists_eq_left']

/-- An object is read if its required members are there and texts. -/
theorem conform_object_eq_ok_iff {name : String} {members : Members} {w : Value} :
    (Shape.record name fields).conform (.object members) = .ok w ↔
      (∀ f ∈ fields, f.isRequired = true → (Value.object members).HoldsText f.name) ∧
        (Value.object members).restrict (fields.map Field.name) = w := by
  let kept := members.filter fun m => m.1 ∈ fields.map Field.name
  have known (known : Members) :
      members.filterMapM (fun m => conformMember fields m.1 m.2) = .ok known ↔
        (∀ m ∈ members, ∀ f ∈ fields, f.name = m.1 → f.Takes m.2) ∧ kept = known := by
    rw [filterMapM_eq_ok_iff fun m r => conformMember_eq_ok_iff flat distinct,
      List.filterMap_eq_filter]
  have found (f : Field) (hf : f ∈ fields) :
      Assoc.get? f.name kept = Assoc.get? f.name members :=
    Value.member?_restrict (List.mem_map_of_mem hf) (.object members)
  have asked :
      (∀ f ∈ fields, f.isRequired = true → (Value.object members).HoldsText f.name) ↔
        (∀ m ∈ members, ∀ f ∈ fields, f.name = m.1 → f.Takes m.2) ∧
          firstMissing? fields kept = none := by
    rw [firstMissing?_eq_none_iff]
    constructor
    · intro holds
      refine ⟨fun m hm f hf hk required => (holds f hf required).2 m hm hk.symm, ?_⟩
      intro f hf required
      rw [found f hf]
      exact (holds f hf required).1
    · rintro ⟨takes, there⟩ f hf required
      exact ⟨found f hf ▸ there f hf required, fun m hm hk => takes m hm f hf hk.symm required⟩
  simp only [Shape.conform, bind_eq_ok_iff, known, asked, and_assoc, exists_and_left,
    exists_eq_left']
  refine and_congr_right fun _ => ?_
  cases firstMissing? fields kept with
  | none => simp [pure, Except.pure, kept, Value.restrict]
  | some f => simp [throw, throwThe, MonadExceptOf.throw]

end

end PageBuilder.Json

import Mathlib.Data.List.Forall2
import PageBuilder.Proofs.Json.Records
/-! Lists, and records whose fields have shapes of their own. Of a list each item is read by the
shape of the items, and of an object each required field by the shape of the field. -/
namespace PageBuilder.Json

/-! ### Texts and lists -/

theorem mapM_eq_ok_iff {ε α β : Type} {f : α → Except ε β} {l : List α} {results : List β} :
    l.mapM f = .ok results ↔ List.Forall₂ (fun a b => f a = .ok b) l results := by
  induction l generalizing results with
  | nil => simp [pure, Except.pure, eq_comm]
  | cons a rest ih =>
    simp only [List.mapM_cons, bind_eq_ok_iff, ih, List.forall₂_cons_left_iff]
    simp only [pure, Except.pure, Except.ok.injEq, eq_comm (b := results)]
    constructor
    · rintro ⟨b, head, bs, tail, rfl⟩
      exact ⟨b, bs, head, tail, rfl⟩
    · rintro ⟨b, bs, head, tail, rfl⟩
      exact ⟨b, head, bs, tail, rfl⟩

theorem conform_string_eq_ok_iff {v w : Value} :
    Shape.string.conform v = .ok w ↔ ∃ s, v = .string s ∧ w = .string s := by
  cases v <;> simp [Shape.conform, conformString, wrongType, eq_comm]

theorem conform_list_eq_ok_iff {shape : Shape} {v w : Value} :
    (Shape.list shape).conform v = .ok w ↔ ∃ items read, v = .array items ∧ w = .array read ∧
      List.Forall₂ (fun item r => shape.conform item = .ok r) items read := by
  cases v with
  | array items =>
    simp only [Shape.conform, bind_eq_ok_iff, mapM_eq_ok_iff, pure, Except.pure, Except.ok.injEq,
      Value.array.injEq]
    constructor
    · rintro ⟨read, conform, rfl⟩
      exact ⟨items, read, rfl, rfl, conform⟩
    · rintro ⟨_, read, rfl, rfl, conform⟩
      exact ⟨read, conform, rfl⟩
  | _ => simp [Shape.conform, wrongType]

/-! ### Objects -/

section

variable {fields : List Field} (distinct : (fields.map Field.name).Nodup) {f : Field}
  (hf : f ∈ fields)
include distinct hf

/-- The first member of a field's name is read by the shape of the field, and stays the first. -/
theorem rel_get?_of_known {members known : Members}
    (h : members.filterMapM (fun m => conformMember fields m.1 m.2) = .ok known) :
    Option.Rel (fun v r => f.shape.conform v = .ok r)
      (Assoc.get? f.name members) (Assoc.get? f.name known) := by
  induction members generalizing known with
  | nil =>
    cases h
    exact .none
  | cons m rest ih =>
    rw [List.filterMapM_cons] at h
    obtain ⟨result, read, h⟩ := bind_eq_ok_iff.mp h
    rw [conformMember_eq] at read
    cases found : fields.find? fun g => g.name = m.1 with
    | none =>
      have other : m.1 ≠ f.name := fun same =>
        absurd same.symm (by simpa using List.find?_eq_none.mp found f hf)
      rw [found] at read
      cases read
      rw [Assoc.get?_cons, if_neg other]
      exact ih h
    | some g =>
      have hg := List.mem_of_find?_eq_some found
      have named : g.name = m.1 := by simpa using List.find?_some found
      rw [found] at read
      obtain ⟨r, taken, rfl⟩ := map_eq_ok_iff.mp read
      -- The member is kept. It counts for the field if it has its name, and else it is passed.
      obtain ⟨later, behind, h⟩ := bind_eq_ok_iff.mp h
      cases h
      rw [Assoc.get?_cons, Assoc.get?_cons]
      split
      · rename_i same
        obtain rfl : g = f := List.inj_on_of_nodup_map distinct hg hf (named.trans same)
        exact .some taken
      · exact ih behind

/-- A required field of an object that is read is there, and it is read by its own shape. -/
theorem exists_member?_of_conform {name : String} {members : Members} {w : Value}
    (h : (Shape.record name fields).conform (.object members) = .ok w)
    (required : f.isRequired = true) :
    ∃ v r, (Value.object members).member? f.name = some v ∧ w.member? f.name = some r ∧
      f.shape.conform v = .ok r := by
  simp only [Shape.conform, bind_eq_ok_iff] at h
  obtain ⟨known, read, h⟩ := h
  have rel := rel_get?_of_known distinct hf read
  cases missing : firstMissing? fields known with
  | some key => simp [missing, throw, throwThe, MonadExceptOf.throw] at h
  | none =>
    rw [missing] at h
    cases h
    obtain ⟨r, held⟩ :=
      Option.isSome_iff_exists.mp (firstMissing?_eq_none_iff.mp missing f hf required)
    rw [held] at rel
    generalize found : Assoc.get? f.name members = v at rel
    cases rel with
    | some taken => exact ⟨_, r, found, held, taken⟩

end

end PageBuilder.Json

import PageBuilder.Json.Shape
/-! Values that are in the plain form of a shape already. -/
namespace PageBuilder

/-! ### Outcomes -/

theorem bind_eq_ok_iff {ε α β : Type} {x : Except ε α} {f : α → Except ε β} {result : β} :
    x >>= f = .ok result ↔ ∃ a, x = .ok a ∧ f a = .ok result := by
  cases x <;> simp [bind, Except.bind]

theorem map_eq_ok_iff {ε α β : Type} {x : Except ε α} {f : α → β} {result : β} :
    x.map f = .ok result ↔ ∃ a, x = .ok a ∧ f a = result := by
  cases x <;> simp [Except.map]

namespace Json

/-! ### Plain values -/

@[simp] theorem conform_any (v : Value) : Shape.any.conform v = .ok v := by
  simp [Shape.conform]

@[simp] theorem conform_string (s : String) :
    Shape.string.conform (.string s) = .ok (.string s) := by
  simp [Shape.conform, conformString]

/-! A member that is plain already is read as it is, by the field of its name. -/

section

variable {name key : String} {shape : Shape} {rest : List Field} {v : Value}

@[simp] theorem conformMember_required (plain : shape.conform v = .ok v) :
    conformMember (.required key shape :: rest) key v = .ok (some (key, v)) := by
  rw [conformMember, if_pos rfl, plain]
  rfl

@[simp] theorem conformMember_optional (plain : shape.conform v = .ok v) :
    conformMember (.optional key shape :: rest) key v = .ok (some (key, v)) := by
  rw [conformMember, if_pos rfl, plain]
  rfl

@[simp] theorem conformMember_required_of_ne (h : name ≠ key) :
    conformMember (.required name shape :: rest) key v = conformMember rest key v := by
  rw [conformMember, if_neg h]

@[simp] theorem conformMember_optional_of_ne (h : name ≠ key) :
    conformMember (.optional name shape :: rest) key v = conformMember rest key v := by
  rw [conformMember, if_neg h]

end

theorem conform_record_of_members {name : String} {fields : List Field} {members : Members}
    (plain : ∀ m ∈ members, conformMember fields m.1 m.2 = .ok (some m))
    (complete : firstMissing? fields members = none) :
    (Shape.record name fields).conform (.object members) = .ok (.object members) := by
  have known : members.filterMapM (fun m => conformMember fields m.1 m.2) = .ok members := by
    clear complete
    induction members with
    | nil => rfl
    | cons m rest ih =>
      have head := plain m (by simp)
      have tail := ih fun m hm => plain m (by simp [hm])
      simp only [List.filterMapM_cons, head, tail]
      rfl
  rw [Shape.conform]
  change Except.bind (members.filterMapM fun m => conformMember fields m.1 m.2) _ = _
  rw [known]
  simp only [Except.bind, complete]
  rfl

theorem conform_list_of_items {shape : Shape} {items : List Value}
    (plain : ∀ v ∈ items, shape.conform v = .ok v) :
    (Shape.list shape).conform (.array items) = .ok (.array items) := by
  have same : items.mapM (fun item => shape.conform item) = .ok items := by
    induction items with
    | nil => rfl
    | cons v rest ih =>
      have head := plain v (by simp)
      have tail := ih fun v hv => plain v (by simp [hv])
      simp only [List.mapM_cons, head, tail]
      rfl
  simp only [Shape.conform, same]
  rfl

end Json

end PageBuilder

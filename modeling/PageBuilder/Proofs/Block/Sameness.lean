import Mathlib.Data.List.Forall2
import PageBuilder.Block.Repair
import PageBuilder.Proofs.Json.Sameness
/-! Repair looks at no members but those of a kind's schema, and does not tell values
apart that agree there. -/
namespace PageBuilder.Block

open Json (Value Field)

/-- The names of the props of a kind. -/
def Kind.keys (kind : Kind) : List String :=
  match kind.shape with
  | .record _ fields => fields.map Field.name
  | _ => []

/-- Both values lack the member, or their members agree. -/
def AgreeAt (key : String) (v w : Value) : Prop :=
  Option.Rel Value.Agree (v.member? key) (w.member? key)

theorem AgreeAt.of_agree {v w : Value} (h : v.Agree w) (key : String) : AgreeAt key v w :=
  h.member? key

theorem AgreeAt.of_eq {v w : Value} {key : String} (h : v.member? key = w.member? key) :
    AgreeAt key v w := by
  rw [AgreeAt, h]
  cases w.member? key with
  | none => exact .none
  | some u => exact .some (.refl u)

/-! ### What is read from a member -/

theorem bind_string?_eq {x y : Option Value} (h : Option.Rel Value.Agree x y) :
    x.bind Value.string? = y.bind Value.string? := by
  cases h with
  | none => rfl
  | some agree => exact agree.string?

theorem forall₂_items {x y : Option Value} (h : Option.Rel Value.Agree x y) :
    List.Forall₂ Value.Agree ((x.bind Value.items?).getD []) ((y.bind Value.items?).getD []) := by
  cases h with
  | none => exact .nil
  | some agree =>
    cases agree with
    | array length elements =>
      refine List.forall₂_iff_get.mpr ⟨length, fun i hv hw => ?_⟩
      exact elements i _ _ (List.getElem?_eq_getElem hv) (List.getElem?_eq_getElem hw)
    | _ => exact .nil

variable {key : String} {v w : Value}

theorem AgreeAt.textOr (h : AgreeAt key v w) (fallback : String) :
    v.textOr fallback key = w.textOr fallback key :=
  congrArg (·.getD fallback) (bind_string?_eq h)

theorem AgreeAt.solidTextOr (h : AgreeAt key v w) (fallback : String) :
    solidTextOr fallback key v = solidTextOr fallback key w := by
  have text : v.textAt? key = w.textAt? key := bind_string?_eq h
  rw [Block.solidTextOr, Block.solidTextOr, text]

theorem AgreeAt.items (h : AgreeAt key v w) :
    List.Forall₂ Value.Agree (v.itemsAt key) (w.itemsAt key) :=
  forall₂_items h

theorem filterMap_string_eq {vs ws : List Value} (h : List.Forall₂ Value.Agree vs ws) :
    vs.filterMap Value.string? = ws.filterMap Value.string? := by
  induction h with
  | nil => rfl
  | cons agree _ ih => rw [List.filterMap_cons, List.filterMap_cons, agree.string?, ih]

theorem AgreeAt.tagsOr (h : AgreeAt key v w) (fallback : List String) :
    tagsOr fallback key v = tagsOr fallback key w := by
  rw [Block.tagsOr, Block.tagsOr, filterMap_string_eq h.items]

section

variable {α : Type} {repair : α → Value → α} (first : α) (others : List α)

theorem repairFrom_congr (h : ∀ d v w, v.Agree w → repair d v = repair d w) {vs ws : List Value}
    (agree : List.Forall₂ Value.Agree vs ws) (index : Nat) :
    repairFrom repair first others index vs = repairFrom repair first others index ws := by
  induction agree generalizing index with
  | nil => rfl
  | cons head _ ih => rw [repairFrom, repairFrom, h _ _ _ head, ih]

theorem AgreeAt.repairList (h : AgreeAt key v w)
    (same : ∀ d v w, v.Agree w → repair d v = repair d w) :
    repairList repair first others key v = repairList repair first others key w := by
  have agree := h.items
  rw [Block.repairList, Block.repairList]
  cases hv : v.itemsAt key with
  | nil =>
    rw [hv] at agree
    rw [List.forall₂_nil_left_iff.mp agree]
  | cons x xs =>
    rw [hv] at agree
    obtain ⟨y, ys, -, -, hw⟩ := List.forall₂_cons_left_iff.mp agree
    rw [hw] at agree ⊢
    exact repairFrom_congr first others same agree 0

end

/-! ### The props of a kind -/

theorem Pitch.repair_congr (d : Pitch) (h : ∀ key ∈ pitchFields.map Field.name, AgreeAt key v w) :
    d.repair v = d.repair w := by
  simp only [pitchFields, List.map_cons, Field.name, List.forall_mem_cons] at h
  obtain ⟨badge, title, description, primaryLabel, secondaryLabel, -⟩ := h
  simp only [Pitch.repair, badge.textOr, title.textOr, description.textOr, primaryLabel.textOr,
    secondaryLabel.textOr]

theorem Metric.repair_congr (d : Metric) (v w : Value) (h : v.Agree w) :
    d.repair v = d.repair w := by
  have agree := AgreeAt.of_agree h
  simp only [Metric.repair, (agree "label").textOr, (agree "value").textOr, (agree "detail").textOr]

theorem Stage.repair_congr (d : Stage) (v w : Value) (h : v.Agree w) :
    d.repair v = d.repair w := by
  have agree := AgreeAt.of_agree h
  simp only [Stage.repair, (agree "id").solidTextOr, (agree "label").textOr, (agree "title").textOr,
    (agree "description").textOr, (agree "tags").tagsOr]

theorem Props.repair_congr {kind : Kind} (h : ∀ key ∈ kind.keys, AgreeAt key v w) :
    Props.repair kind v = Props.repair kind w := by
  cases kind with
  | hero => exact congrArg Props.hero (newHero.repair_congr h)
  | stats =>
    have metrics : AgreeAt "metrics" v w := h _ (by simp [Kind.keys, Kind.shape, Field.name])
    exact congrArg Props.stats (metrics.repairList _ _ Metric.repair_congr)
  | workflow =>
    have stages : AgreeAt "stages" v w := h _ (by simp [Kind.keys, Kind.shape, Field.name])
    exact congrArg Props.workflow (stages.repairList _ _ Stage.repair_congr)
  | cta => exact congrArg Props.cta (newCta.repair_congr h)
  | form =>
    simp only [Kind.keys, Kind.shape, List.map_cons, Field.name, List.forall_mem_cons] at h
    obtain ⟨title, description, emailLabel, commentLabel, submitLabel, -⟩ := h
    simp only [Props.repair, FormTexts.repair, title.textOr, description.textOr,
      emailLabel.textOr, commentLabel.textOr, submitLabel.textOr]

theorem Props.repair_of_agree (kind : Kind) (h : v.Agree w) :
    Props.repair kind v = Props.repair kind w :=
  repair_congr fun key _ => .of_agree h key

end PageBuilder.Block

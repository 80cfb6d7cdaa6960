import Mathlib.Data.List.Forall2
import PageBuilder.Block.Repair
/-! Repair is a retraction onto valid props: what it gives is valid, and valid props
that are written come back unchanged. -/
namespace PageBuilder.Block

open Json (Value)

/-- A stage has an id and tags, and none of them is blank. -/
structure Stage.Valid (s : Stage) : Prop where
  id : Text.isBlank s.id = false
  tags_ne_nil : s.tags ≠ []
  tags : ∀ tag ∈ s.tags, Text.isBlank tag = false

/-- Lists of metrics and stages have an element, and stages are valid. -/
def Props.Valid : Props → Prop
  | .stats metrics => metrics ≠ []
  | .workflow stages => stages ≠ [] ∧ ∀ s ∈ stages, s.Valid
  | _ => True

/-! ### What is written comes back -/

@[simp] theorem Pitch.repair_toValue (d p : Pitch) : d.repair p.toValue = p := rfl

@[simp] theorem Metric.repair_toValue (d m : Metric) : d.repair m.toValue = m := rfl

@[simp] theorem FormTexts.repair_toValue (d f : FormTexts) : d.repair f.toValue = f := rfl

theorem filterMap_string (texts : List String) :
    (texts.map Value.string).filterMap Value.string? = texts := by
  rw [List.filterMap_map]
  exact List.filterMap_some

theorem tagsOr_of_solid {fallback tags : List String} {key : String} {v : Value}
    (h : ((v.itemsAt key).filterMap Value.string?).filter (fun tag => !Text.isBlank tag) = tags)
    (hne : tags ≠ []) : tagsOr fallback key v = tags := by
  rw [tagsOr, h]
  split
  · exact absurd rfl hne
  · rfl

theorem Stage.repair_toValue (d : Stage) {s : Stage} (h : s.Valid) : d.repair s.toValue = s := by
  have hid : solidTextOr d.id "id" s.toValue = s.id := if_neg (by simp [h.id])
  have htags : tagsOr d.tags "tags" s.toValue = s.tags := by
    have kept : (s.tags.filter fun tag => !Text.isBlank tag) = s.tags :=
      List.filter_eq_self.mpr fun tag ht => by simp [h.tags tag ht]
    refine tagsOr_of_solid ?_ h.tags_ne_nil
    change ((s.tags.map Value.string).filterMap Value.string?).filter _ = s.tags
    rw [filterMap_string, kept]
  rw [Stage.repair, hid, htags]
  rfl

section

variable {α : Type} {repair : α → Value → α} {xs : List α}

/-- Items that come out the same under every fallback come out so in a list. -/
theorem repairFrom_of_forall₂ {items : List Value}
    (h : List.Forall₂ (fun item x => ∀ d, repair d item = x) items xs) (first : α)
    (others : List α) (index : Nat) : repairFrom repair first others index items = xs := by
  induction h generalizing index with
  | nil => rfl
  | cons head _ ih => rw [repairFrom, head, ih]

theorem repairList_of_forall₂ {key : String} {v : Value}
    (h : List.Forall₂ (fun item x => ∀ d, repair d item = x) (v.itemsAt key) xs) (hne : xs ≠ [])
    (first : α) (others : List α) : repairList repair first others key v = xs := by
  rw [repairList]
  split
  · rename_i none
    rw [none] at h
    exact absurd (List.forall₂_nil_left_iff.mp h) hne
  · exact repairFrom_of_forall₂ h first others 0

theorem forall₂_map_write {write : α → Value} (h : ∀ x ∈ xs, ∀ d, repair d (write x) = x) :
    List.Forall₂ (fun item x => ∀ d, repair d item = x) (xs.map write) xs :=
  List.forall₂_map_left_iff.mpr (List.forall₂_same.mpr h)

end

theorem Props.repair_toValue {p : Props} (h : p.Valid) : Props.repair p.kind p.toValue = p := by
  cases p with
  | hero | cta | form => rfl
  | stats metrics =>
    have items := forall₂_map_write fun m (_ : m ∈ metrics) d => Metric.repair_toValue d m
    exact congrArg Props.stats (repairList_of_forall₂ items h ..)
  | workflow stages =>
    have items := forall₂_map_write fun s hs d => Stage.repair_toValue d (h.2 s hs)
    exact congrArg Props.workflow (repairList_of_forall₂ items h.1 ..)

/-! ### What is repaired is valid -/

theorem solidTextOr_solid {fallback : String} (h : Text.isBlank fallback = false) (key : String)
    (v : Value) : Text.isBlank (solidTextOr fallback key v) = false := by
  unfold solidTextOr
  split
  · split
    · exact h
    · rename_i solid
      simpa using solid
  · exact h

theorem Stage.repair_valid {d : Stage} (h : d.Valid) (v : Value) : (d.repair v).Valid where
  id := solidTextOr_solid h.id "id" v
  tags_ne_nil := by
    simp only [Stage.repair, tagsOr]
    split
    · exact h.tags_ne_nil
    · assumption
  tags := by
    simp only [Stage.repair, tagsOr]
    split
    · exact h.tags
    · intro tag ht
      simpa using (List.mem_filter.mp ht).2

theorem fallbackAt_mem {α : Type} (first : α) (others : List α) (index : Nat) :
    fallbackAt first others index ∈ first :: others := by
  have hlt : index % (others.length + 1) < (first :: others).length := Nat.mod_lt _ (by simp)
  rw [fallbackAt, List.getD_eq_getElem?_getD, List.getElem?_eq_getElem hlt]
  exact List.getElem_mem hlt

theorem mem_repairFrom {α : Type} {repair : α → Value → α} {first x : α} {others : List α}
    {items : List Value} {index : Nat} (h : x ∈ repairFrom repair first others index items) :
    ∃ d ∈ first :: others, ∃ v, x = repair d v := by
  induction items generalizing index with
  | nil => simp [repairFrom] at h
  | cons item rest ih =>
    rcases List.mem_cons.mp h with rfl | h
    · exact ⟨_, fallbackAt_mem first others index, item, rfl⟩
    · exact ih h

theorem repairList_ne_nil {α : Type} (repair : α → Value → α) (first : α) (others : List α)
    (key : String) (v : Value) : repairList repair first others key v ≠ [] := by
  unfold repairList
  cases v.itemsAt key with
  | nil => simp
  | cons => simp [repairFrom]

theorem newStages_valid : ∀ d ∈ firstStage :: otherStages, d.Valid := by
  intro d hd
  simp only [otherStages, List.mem_cons, List.not_mem_nil, or_false] at hd
  rcases hd with rfl | rfl | rfl <;> exact ⟨by decide, by decide, by decide⟩

theorem Props.valid_repair (kind : Kind) (v : Value) : (Props.repair kind v).Valid := by
  cases kind with
  | hero | cta | form => trivial
  | stats => exact repairList_ne_nil _ _ _ _ v
  | workflow =>
    refine ⟨repairList_ne_nil _ _ _ _ v, fun s hs => ?_⟩
    unfold repairList at hs
    split at hs
    · exact newStages_valid s hs
    · obtain ⟨d, hd, v, rfl⟩ := mem_repairFrom hs
      exact Stage.repair_valid (newStages_valid d hd) v

theorem Props.repair_repair (kind : Kind) (v : Value) :
    Props.repair kind (Props.repair kind v).toValue = Props.repair kind v := by
  have := Props.repair_toValue (Props.valid_repair kind v)
  rwa [Props.kind_repair] at this

/-! ### Retraction -/

theorem Props.repair_toValue_iff {p : Props} : Props.repair p.kind p.toValue = p ↔ p.Valid := by
  constructor
  · intro h
    rw [← h]
    exact valid_repair p.kind p.toValue
  · exact repair_toValue

/-- Whatever the value, repair gives valid props of the kind. It keeps what was written
of valid props and of no others, so a second repair changes nothing. -/
theorem Props.repair_retraction :
    (∀ (kind : Kind) (v : Value),
      (Props.repair kind v).kind = kind ∧ (Props.repair kind v).Valid) ∧
      (∀ p : Props, Props.repair p.kind p.toValue = p ↔ p.Valid) ∧
      ∀ (kind : Kind) (v : Value),
        Props.repair kind (Props.repair kind v).toValue = Props.repair kind v :=
  ⟨fun kind v => ⟨kind_repair kind v, valid_repair kind v⟩, fun _ => repair_toValue_iff,
    repair_repair⟩

end PageBuilder.Block

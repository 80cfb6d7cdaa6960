import PageBuilder.Proofs.Block.Fields
/-! Lists of metrics and of stages are repaired item by item. An item and its place in the
cycle of fallbacks decide what becomes of it, and each of its fields follows its own member. -/
namespace PageBuilder.Block

open Json (Value Members)

/-- The prop of a kind that is a list of records. -/
def Kind.listKey? : Kind → Option String
  | .stats => some "metrics"
  | .workflow => some "stages"
  | _ => none

/-- The metrics or the stages, as they are stored. -/
def Props.items : Props → List Value
  | .stats metrics => metrics.map Metric.toValue
  | .workflow stages => stages.map Stage.toValue
  | _ => []

/-! ### One item -/

section

variable {α β : Type} (repair : α → Value → α) (first : α) (others : List α) (f : α → β)

theorem fallbackAt_congr {i j : Nat} (h : i % (others.length + 1) = j % (others.length + 1)) :
    fallbackAt first others i = fallbackAt first others j := by
  rw [fallbackAt, fallbackAt, h]

theorem map_repairFrom (index : Nat) (items : List Value) :
    (repairFrom repair first others index items).map f =
      items.mapIdx fun i item => f (repair (fallbackAt first others (index + i)) item) := by
  induction items generalizing index with
  | nil => rfl
  | cons item rest ih =>
    rw [repairFrom, List.map_cons, ih, List.mapIdx_cons]
    simp only [Nat.add_zero, Nat.add_assoc, Nat.add_comm 1]

theorem map_repairList {key : String} {v : Value} (h : v.itemsAt key ≠ []) :
    (repairList repair first others key v).map f =
      (v.itemsAt key).mapIdx fun i item => f (repair (fallbackAt first others i) item) := by
  rw [repairList]
  split
  · exact absurd ‹_› h
  · rw [map_repairFrom]
    simp only [Nat.zero_add]

end

/-- What is stored for an item at an index. -/
def Kind.repairItem : Kind → Nat → Value → Value
  | .stats, i, item => (Metric.repair (fallbackAt firstMetric otherMetrics i) item).toValue
  | .workflow, i, item => (Stage.repair (fallbackAt firstStage otherStages i) item).toValue
  | _, _, _ => .null

/-- After so many items the fallbacks are used again. -/
def Kind.period (kind : Kind) : Nat :=
  (Props.new kind).items.length

theorem Props.items_repair {kind : Kind} {key : String} (listed : kind.listKey? = some key)
    {v : Value} (h : v.itemsAt key ≠ []) :
    (Props.repair kind v).items = (v.itemsAt key).mapIdx kind.repairItem := by
  cases kind <;> cases listed
  · exact map_repairList _ _ _ _ h
  · exact map_repairList _ _ _ _ h

theorem Kind.repairItem_of_place {kind : Kind} {i j : Nat} (h : i % kind.period = j % kind.period)
    (item : Value) : kind.repairItem i item = kind.repairItem j item := by
  cases kind with
  | stats => rw [repairItem, repairItem, fallbackAt_congr firstMetric otherMetrics h]
  | workflow => rw [repairItem, repairItem, fallbackAt_congr firstStage otherStages h]
  | hero | cta | form => rfl

section

variable (kind : Kind) (i : Nat) {x y : Value}

theorem Kind.repairItem_congr (h : x.Agree y) : kind.repairItem i x = kind.repairItem i y := by
  cases kind with
  | stats => rw [repairItem, repairItem, Metric.repair_congr _ _ _ h]
  | workflow => rw [repairItem, repairItem, Stage.repair_congr _ _ _ h]
  | hero | cta | form => rfl

theorem Kind.member?_repairItem_congr {field : String} (h : AgreeAt field x y) :
    (kind.repairItem i x).member? field = (kind.repairItem i y).member? field := by
  cases kind with
  | stats => exact Metric.member?_repair_congr _ h
  | workflow => exact Stage.member?_repair_congr _ h
  | hero | cta | form => rfl

end

/-! ### Lists -/

/-- An object with one member put in, replaced or taken away. -/
inductive Retouched (field : String) : Value → Value → Prop where
  | put (members : Members) (value : Value) :
    Retouched field (.object members) (.object (Assoc.put field value members))
  | erase (members : Members) :
    Retouched field (.object members) (.object (Assoc.erase field members))

theorem Retouched.agreeAt {field : String} {x y : Value} (h : Retouched field x y)
    {other : String} (ne : other ≠ field) : AgreeAt other x y := by
  apply AgreeAt.of_eq
  cases h with
  | put members value => exact (Assoc.get?_put_of_ne ne.symm value members).symm
  | erase members => exact (Assoc.get?_erase_of_ne ne.symm members).symm

/-- A list with items keeps their number. Of two such lists, items that agree and stand at the
same place in the cycle of fallbacks come out the same, whatever the other items are; and
where one member of an item is changed or removed, its other fields come out the same. -/
theorem Props.repair_itemwise {kind : Kind} {key : String} (listed : kind.listKey? = some key) :
    (∀ v, v.itemsAt key ≠ [] →
      (Props.repair kind v).items.length = (v.itemsAt key).length) ∧
    ∀ v w i j x y, (v.itemsAt key)[i]? = some x → (w.itemsAt key)[j]? = some y →
      i % kind.period = j % kind.period →
      ∃ a b, (Props.repair kind v).items[i]? = some a ∧
        (Props.repair kind w).items[j]? = some b ∧
        (x.Agree y → a = b) ∧
        ∀ field, Retouched field x y → ∀ other, other ≠ field →
          a.member? other = b.member? other := by
  refine ⟨fun v h => ?_, fun v w i j x y hx hy place => ?_⟩
  · rw [items_repair listed h, List.length_mapIdx]
  · have item {v : Value} {i : Nat} {x : Value} (h : (v.itemsAt key)[i]? = some x) :
        (Props.repair kind v).items[i]? = some (kind.repairItem i x) := by
      have some : v.itemsAt key ≠ [] := by
        intro none
        simp [none] at h
      rw [items_repair listed some, List.getElem?_mapIdx, h, Option.map_some]
    have turn := Kind.repairItem_of_place place
    refine ⟨_, _, item hx, item hy, fun same => ?_, fun field retouched other ne => ?_⟩
    · rw [turn, Kind.repairItem_congr kind j same]
    · rw [turn, Kind.member?_repairItem_congr kind j (retouched.agreeAt ne)]

/-- The neighbours of a metric are broken, and then one of its own members is. -/
theorem Props.repair_itemwise_broken_neighbours :
    let x : Members := [("label", .string "Users"), ("value", .string "9"), ("note", .null)]
    let list (items : List Value) : Value := .object [("metrics", .array items)]
    let v := list [.object x, .string "garbage"]
    let w := list [.null, .array [], .object [], .object x]
    let u := list [.bool true, .object x, .null, .object (Assoc.put "value" (.array []) x)]
    Kind.listKey? .stats = some "metrics" ∧ v.itemsAt "metrics" ≠ [] ∧
      (v.itemsAt "metrics")[0]? = some (.object x) ∧
      (w.itemsAt "metrics")[3]? = some (.object x) ∧
      (u.itemsAt "metrics")[3]? = some (.object (Assoc.put "value" (.array []) x)) ∧
      0 % Kind.period .stats = 3 % Kind.period .stats ∧
      (Props.repair .stats v).items.length = 2 ∧
      (Props.repair .stats v).items[0]? = (Props.repair .stats w).items[3]? ∧
      ∃ a b, (Props.repair .stats v).items[0]? = some a ∧
        (Props.repair .stats u).items[3]? = some b ∧
        a.member? "label" = b.member? "label" ∧ a.member? "detail" = b.member? "detail" := by
  intro x list v w u
  have law := @repair_itemwise .stats "metrics" rfl
  have some : v.itemsAt "metrics" ≠ [] := List.cons_ne_nil _ _
  have place : 0 % Kind.period .stats = 3 % Kind.period .stats := by decide
  obtain ⟨a, b, ha, hb, same, -⟩ := law.2 v w 0 3 _ _ rfl rfl place
  obtain ⟨c, d, hc, hd, -, fields⟩ := law.2 v u 0 3 _ _ rfl rfl place
  have kept := fields "value" (.put x (.array []))
  refine ⟨rfl, some, rfl, rfl, rfl, place, law.1 v some, ?_, c, d, hc, hd, ?_, ?_⟩
  · rw [ha, hb, same (.refl _)]
  · exact kept "label" (by decide)
  · exact kept "detail" (by decide)

end PageBuilder.Block

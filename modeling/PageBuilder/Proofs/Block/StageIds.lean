import Mathlib.Data.List.Nodup
import PageBuilder.Proofs.Block.Items
/-! The ids of repaired stages. A stage keeps an id that it brings along, and one without gets
the id of the new stage whose turn it is, whoever else has that. -/
namespace PageBuilder.Block

open Json (Value)

/-- The id that an item brings along; a blank one is none. -/
def ownId? (item : Value) : Option String :=
  (item.textAt? "id").filter fun id => !Text.isBlank id

/-- The ids of the stages of a new workflow. -/
def newIds : List String :=
  (firstStage :: otherStages).map Stage.id

/-- An item without an id comes to one that another item has, by itself or in the same way. -/
inductive Clash (items : List Value) : Prop where
  | taken {i j : Nat} {x y : Value} {id : String} (hx : items[i]? = some x)
    (bare : ownId? x = none) (turn : newIds[i % newIds.length]? = some id)
    (hy : items[j]? = some y) (own : ownId? y = some id) : Clash items
  | cycle {i j : Nat} {x y : Value} (hx : items[i]? = some x) (hy : items[j]? = some y)
    (bare : ownId? x = none) (bare' : ownId? y = none) (apart : i ≠ j)
    (turn : i % newIds.length = j % newIds.length) : Clash items

/-! ### The id of one item -/

/-- The id of an item at an index. -/
def idAt (i : Nat) (item : Value) : String :=
  (ownId? item).getD (fallbackAt firstStage otherStages i).id

theorem id_repair (i : Nat) (item : Value) :
    (Stage.repair (fallbackAt firstStage otherStages i) item).id = idAt i item := by
  simp only [Stage.repair, solidTextOr, idAt, ownId?]
  cases item.textAt? "id" with
  | none => rfl
  | some id => cases h : Text.isBlank id <;> simp [Option.filter, h]

theorem idAt_of_own {item : Value} {id : String} (own : ownId? item = some id) (i : Nat) :
    idAt i item = id := by
  rw [idAt, own, Option.getD_some]

theorem getElem?_newIds (i : Nat) :
    newIds[i % newIds.length]? = some (fallbackAt firstStage otherStages i).id := by
  have lt : i % (otherStages.length + 1) < (firstStage :: otherStages).length :=
    Nat.mod_lt _ (Nat.succ_pos _)
  change ((firstStage :: otherStages).map Stage.id)[i % (otherStages.length + 1)]? = _
  rw [fallbackAt, List.getD_eq_getElem?_getD, List.getElem?_map, List.getElem?_eq_getElem lt,
    Option.map_some, Option.getD_some]

example : newIds[4 % newIds.length]? = some "build" := rfl

theorem getElem?_newIds_of_bare {item : Value} (bare : ownId? item = none) (i : Nat) :
    newIds[i % newIds.length]? = some (idAt i item) := by
  rw [getElem?_newIds, idAt, bare, Option.getD_none]

theorem nodup_newIds : newIds.Nodup := by
  decide

/-- Items without an id get the same one if it is the same stage's turn. -/
theorem turn_eq_iff {i j : Nat} {x y : Value} (hx : ownId? x = none) (hy : ownId? y = none) :
    i % newIds.length = j % newIds.length ↔ idAt i x = idAt j y := by
  have left := getElem?_newIds_of_bare hx i
  have right := getElem?_newIds_of_bare hy j
  constructor
  · intro same
    rw [same, right] at left
    exact (Option.some.inj left).symm
  · intro same
    have lt : i % newIds.length < newIds.length := Nat.mod_lt _ (by decide)
    exact (List.getElem?_inj lt nodup_newIds).mp (by rw [left, right, same])

/-! ### The ids of a list -/

variable {items : List Value}

theorem ids_repair {v : Value} (held : v.itemsAt "stages" = items) (nonempty : items ≠ []) :
    ∃ stages, Props.repair .workflow v = .workflow stages ∧
      stages.map Stage.id = items.mapIdx idAt := by
  subst held
  refine ⟨_, rfl, (map_repairList _ _ _ _ nonempty).trans ?_⟩
  simp only [id_repair]

theorem Clash.not_nodup (h : Clash items) : ¬ (items.mapIdx idAt).Nodup := by
  intro distinct
  have id {i : Nat} {x : Value} (hx : items[i]? = some x) :
      (items.mapIdx idAt)[i]? = some (idAt i x) := by
    rw [List.getElem?_mapIdx, hx, Option.map_some]
  have same {i j : Nat} {x y : Value} (hx : items[i]? = some x) (hy : items[j]? = some y)
      (h : idAt i x = idAt j y) : i = j := by
    have lt : i < (items.mapIdx idAt).length := (List.getElem?_eq_some_iff.mp (id hx)).1
    exact (List.getElem?_inj lt distinct).mp (by rw [id hx, id hy, h])
  cases h with
  | @taken i j x y name hx bare turn hy own =>
    have := getElem?_newIds_of_bare bare i
    rw [turn] at this
    have := same hx hy ((Option.some.inj this).symm.trans (idAt_of_own own j).symm)
    subst this
    rw [hx] at hy
    cases hy
    rw [bare] at own
    cases own
  | cycle hx hy bare bare' apart turn =>
    exact apart (same hx hy ((turn_eq_iff bare bare').mp turn))

/-- Where items bring distinct ids along, the ids of all are distinct unless some clash. -/
theorem nodup_ids_iff (distinct : (items.filterMap ownId?).Nodup) :
    (items.mapIdx idAt).Nodup ↔ ¬ Clash items := by
  refine ⟨fun h clash => clash.not_nodup h, fun free => ?_⟩
  rw [List.Nodup, List.pairwise_iff_getElem]
  intro i j hi hj lt
  rw [List.length_mapIdx] at hi hj
  rw [List.getElem_mapIdx, List.getElem_mapIdx]
  intro same
  have hx := List.getElem?_eq_getElem hi
  have hy := List.getElem?_eq_getElem hj
  -- Which of the two brings an id along decides how they clash; if both do, they differ.
  cases left : ownId? items[i] with
  | none =>
    cases right : ownId? items[j] with
    | none =>
      have turn := (turn_eq_iff left right).mpr same
      exact free (.cycle hx hy left right (Nat.ne_of_lt lt) turn)
    | some id =>
      rw [idAt_of_own right] at same
      exact free (.taken hx left (same ▸ getElem?_newIds_of_bare left i) hy right)
  | some id =>
    rw [idAt_of_own left] at same
    cases right : ownId? items[j] with
    | none => exact free (.taken hy right (same ▸ getElem?_newIds_of_bare right j) hx left)
    | some other =>
      rw [idAt_of_own right] at same
      have apart := List.pairwise_iff_getElem.mp (List.pairwise_filterMap.mp distinct)
      exact apart i j hi hj lt id left other right same

end PageBuilder.Block

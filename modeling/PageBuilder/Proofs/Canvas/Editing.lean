import Mathlib.Data.List.Nodup
import Mathlib.Data.List.Perm.Basic
import PageBuilder.Canvas.Edit
/-! Editing keeps the ids of the blocks distinct and the selection on a block that is there. A
block is lost or changed by nothing but an operation on its own id, or by clearing the canvas. -/
namespace PageBuilder.Canvas

open Json (Value)

/-- No two blocks have one id, and what is selected is there. -/
structure WellFormed (c : Canvas) : Prop where
  distinct : c.instanceIds.Nodup
  selection : ∀ id ∈ c.selectedId, id ∈ c.instanceIds

/-- What an editor may do to a canvas. The id of a new block is the one drawn for it. -/
inductive Step where
  | add (kind : Block.Kind) (instanceId : String)
  | remove (instanceId : String)
  | move (activeId overId : String)
  | select (instanceId : String)
  | updateProps (instanceId : String) (props : Value)
  | updateNotes (instanceId notes : String)
  | updateBinding (instanceId : String) (binding : Option DataBinding)
  | clear
  deriving DecidableEq, Repr

def after (c : Canvas) : Step → Canvas
  | .add kind instanceId => c.add kind instanceId
  | .remove instanceId => c.remove instanceId
  | .move activeId overId => c.move activeId overId
  | .select instanceId => c.select instanceId
  | .updateProps instanceId props => c.updateProps instanceId props
  | .updateNotes instanceId notes => c.updateNotes instanceId notes
  | .updateBinding instanceId binding => c.updateBinding instanceId binding
  | .clear => .empty

def run (c : Canvas) (steps : List Step) : Canvas :=
  steps.foldl after c

/-- Only a block that is there is selected, and a new id is not in use. -/
def Permits (c : Canvas) : Step → Prop
  | .add _ instanceId => instanceId ∉ c.instanceIds
  | .select instanceId => instanceId ∈ c.instanceIds
  | _ => True

/-- Every step is permitted where it is made. -/
def Permitted (c : Canvas) : List Step → Prop
  | [] => True
  | step :: rest => c.Permits step ∧ (c.after step).Permitted rest

/-- The step is not about the block. -/
def Step.Spares (instanceId : String) : Step → Prop
  | .remove id | .updateProps id _ | .updateNotes id _ | .updateBinding id _ => id ≠ instanceId
  | .add _ _ | .move _ _ | .select _ => True
  | .clear => False

instance (c : Canvas) : (step : Step) → Decidable (c.Permits step)
  | .add _ instanceId => inferInstanceAs (Decidable (instanceId ∉ c.instanceIds))
  | .select instanceId => inferInstanceAs (Decidable (instanceId ∈ c.instanceIds))
  | .remove _ | .move _ _ | .updateProps _ _ | .updateNotes _ _ | .updateBinding _ _ | .clear =>
    .isTrue trivial

instance decidablePermitted : (c : Canvas) → (steps : List Step) → Decidable (c.Permitted steps)
  | _, [] => .isTrue trivial
  | c, step :: rest =>
    have := decidablePermitted (c.after step) rest
    inferInstanceAs (Decidable (_ ∧ _))

/-! ### Blocks and their ids -/

variable {c : Canvas}

section

variable (c)

theorem instanceIds_add (kind : Block.Kind) (instanceId : String) :
    (c.add kind instanceId).instanceIds = c.instanceIds ++ [instanceId] := by
  simp [add, instanceIds, PlacedBlock.new]

theorem instanceIds_remove (instanceId : String) :
    (c.remove instanceId).instanceIds = c.instanceIds.filter fun id => id ≠ instanceId := by
  simp [remove, instanceIds, List.filter_map, Function.comp_def]

theorem instanceIds_update (instanceId : String) {change : PlacedBlock → PlacedBlock}
    (kept : ∀ b, (change b).instanceId = b.instanceId) :
    (c.update instanceId change).instanceIds = c.instanceIds := by
  unfold update mapBlocks instanceIds
  rw [List.map_map]
  apply List.map_congr_left
  intro b _
  dsimp only [Function.comp_apply]
  split
  · exact kept b
  · rfl

theorem mem_instanceIds_of_firstId? {blocks : List PlacedBlock} {instanceId : String}
    (h : instanceId ∈ firstId? blocks) : instanceId ∈ blocks.map PlacedBlock.instanceId := by
  obtain ⟨b, hb, rfl⟩ := Option.map_eq_some_iff.mp h
  exact List.mem_map_of_mem (List.mem_of_head? hb)

end

/-- What is taken out is put back in, at an index that the shorter list still has. -/
theorem relocate_perm {blocks : List PlacedBlock} {source target : Nat}
    (hs : source < blocks.length) (ht : target < blocks.length) :
    (relocate source target blocks).Perm blocks := by
  unfold relocate
  rw [List.getElem?_eq_getElem hs]
  dsimp only
  have fits : target ≤ (blocks.eraseIdx source).length := by
    rw [List.length_eraseIdx_of_lt hs]
    omega
  exact (List.perm_insertIdx blocks[source] _ fits).trans (List.getElem_cons_eraseIdx_perm hs)

theorem lt_length_of_index? {instanceId : String} {i : Nat} (h : c.index? instanceId = some i) :
    i < c.blocks.length :=
  (List.findIdx?_eq_some_iff_findIdx_eq.mp h).1

theorem blocks_move_perm (c : Canvas) (activeId overId : String) :
    (c.move activeId overId).blocks.Perm c.blocks := by
  unfold move
  split
  · exact .refl _
  · split
    · rename_i source target hs ht
      exact relocate_perm (lt_length_of_index? hs) (lt_length_of_index? ht)
    · exact .refl _

theorem selectedId_move (c : Canvas) (activeId overId : String) :
    (c.move activeId overId).selectedId = c.selectedId ∨
      (c.move activeId overId).selectedId = firstId? (c.move activeId overId).blocks := by
  unfold move
  split
  · exact .inl rfl
  · split
    · dsimp only
      split
      · exact .inl rfl
      · exact .inr rfl
    · exact .inl rfl

theorem block?_of_mem (distinct : c.instanceIds.Nodup) {b : PlacedBlock} (h : b ∈ c.blocks) :
    c.block? b.instanceId = some b :=
  Assoc.find?_key_of_mem distinct h

/-! ### What every step keeps -/

namespace WellFormed

theorem add (h : c.WellFormed) (kind : Block.Kind) {instanceId : String}
    (fresh : instanceId ∉ c.instanceIds) : (c.add kind instanceId).WellFormed := by
  constructor
  · rw [instanceIds_add, List.nodup_append]
    refine ⟨h.distinct, List.nodup_singleton _, ?_⟩
    intro id hid other ho
    rw [List.mem_singleton.mp ho]
    exact fun same => fresh (same ▸ hid)
  · rintro id ⟨⟩
    simp [instanceIds_add]

theorem remove (h : c.WellFormed) (instanceId : String) : (c.remove instanceId).WellFormed := by
  constructor
  · rw [instanceIds_remove]
    exact h.distinct.filter _
  · intro id selected
    unfold Canvas.remove at selected
    dsimp only at selected
    split at selected
    · exact mem_instanceIds_of_firstId? selected
    · rename_i other
      rw [instanceIds_remove, List.mem_filter]
      refine ⟨h.selection id selected, ?_⟩
      have differs : id ≠ instanceId := fun same => other (same ▸ selected)
      simpa using differs

theorem move (h : c.WellFormed) (activeId overId : String) :
    (c.move activeId overId).WellFormed := by
  have ids : (c.move activeId overId).instanceIds.Perm c.instanceIds :=
    (blocks_move_perm c activeId overId).map _
  constructor
  · exact ids.nodup_iff.mpr h.distinct
  · intro id selected
    rcases selectedId_move c activeId overId with same | first
    · exact ids.mem_iff.mpr (h.selection id (same ▸ selected))
    · exact mem_instanceIds_of_firstId? (first ▸ selected)

theorem update (h : c.WellFormed) (instanceId : String) {change : PlacedBlock → PlacedBlock}
    (kept : ∀ b, (change b).instanceId = b.instanceId) :
    (c.update instanceId change).WellFormed := by
  have ids := instanceIds_update c instanceId kept
  constructor
  · rw [ids]
    exact h.distinct
  · rw [ids]
    exact h.selection

theorem after (h : c.WellFormed) {step : Step} (permitted : c.Permits step) :
    (c.after step).WellFormed := by
  cases step with
  | add kind instanceId => exact h.add kind permitted
  | remove instanceId => exact h.remove instanceId
  | move activeId overId => exact h.move activeId overId
  | select instanceId =>
    refine ⟨h.distinct, ?_⟩
    rintro id ⟨⟩
    exact permitted
  | updateProps instanceId props => exact h.update instanceId fun _ => rfl
  | updateNotes instanceId notes => exact h.update instanceId fun _ => rfl
  | updateBinding instanceId binding => exact h.update instanceId fun _ => rfl
  | clear => exact ⟨List.nodup_nil, nofun⟩

end WellFormed

theorem mem_blocks_update {b : PlacedBlock} (h : b ∈ c.blocks) {instanceId : String}
    (other : instanceId ≠ b.instanceId) (change : PlacedBlock → PlacedBlock) :
    b ∈ (c.update instanceId change).blocks :=
  List.mem_map.mpr ⟨b, h, if_neg other.symm⟩

theorem mem_blocks_after {b : PlacedBlock} (h : b ∈ c.blocks) {step : Step}
    (spared : step.Spares b.instanceId) : b ∈ (c.after step).blocks := by
  cases step with
  | add kind instanceId => exact List.mem_append_left _ h
  | remove instanceId =>
    refine List.mem_filter.mpr ⟨h, ?_⟩
    simpa using Ne.symm spared
  | move activeId overId => exact (blocks_move_perm c activeId overId).mem_iff.mpr h
  | select instanceId => exact h
  | updateProps instanceId props => exact mem_blocks_update h spared _
  | updateNotes instanceId notes => exact mem_blocks_update h spared _
  | updateBinding instanceId binding => exact mem_blocks_update h spared _
  | clear => cases spared

/-! ### Runs -/

theorem permitted_append {earlier later : List Step} :
    c.Permitted (earlier ++ later) ↔ c.Permitted earlier ∧ (c.run earlier).Permitted later := by
  induction earlier generalizing c with
  | nil => simp [Permitted, run]
  | cons step rest ih =>
    rw [List.cons_append, Permitted, Permitted, ih, and_assoc]
    rfl

theorem WellFormed.run (h : c.WellFormed) {steps : List Step} (permitted : c.Permitted steps) :
    (c.run steps).WellFormed := by
  induction steps generalizing c with
  | nil => exact h
  | cons step rest ih => exact ih (h.after permitted.1) permitted.2

theorem mem_blocks_run {b : PlacedBlock} (h : b ∈ c.blocks) {steps : List Step}
    (spared : ∀ step ∈ steps, step.Spares b.instanceId) : b ∈ (c.run steps).blocks := by
  induction steps generalizing c with
  | nil => exact h
  | cons step rest ih =>
    apply ih
    · exact mem_blocks_after h (spared step (List.mem_cons_self ..))
    · exact fun later hl => spared later (List.mem_cons_of_mem _ hl)

theorem WellFormed.selected?_eq_none (h : c.WellFormed) (absent : c.selected? = none) :
    c.selectedId = none := by
  cases selected : c.selectedId with
  | none => rfl
  | some id =>
    obtain ⟨b, hb, rfl⟩ := List.mem_map.mp (h.selection id selected)
    rw [selected?, selected, Option.bind_some, block?_of_mem h.distinct hb] at absent
    cases absent

/-- At any time in a run the ids are distinct and the selection is no dangling one; and what is
there then is there to the end, unless the steps that follow are about it. -/
theorem wellFormed_run (h : c.WellFormed) {earlier later : List Step}
    (permitted : c.Permitted (earlier ++ later)) :
    (c.run earlier).WellFormed ∧
      ((c.run earlier).selected? = none → (c.run earlier).selectedId = none) ∧
      ∀ b ∈ (c.run earlier).blocks, (∀ step ∈ later, step.Spares b.instanceId) →
        (c.run (earlier ++ later)).block? b.instanceId = some b := by
  have kept := h.run (permitted_append.mp permitted).1
  refine ⟨kept, kept.selected?_eq_none, fun b hb spared => ?_⟩
  have whole : c.run (earlier ++ later) = (c.run earlier).run later := List.foldl_append
  have present := mem_blocks_run hb spared
  rw [← whole] at present
  exact block?_of_mem (h.run permitted).distinct present

/-- The starter canvas: the hero is moved behind the workflow, the stats lose their props, and
a form that is selected is removed again. -/
theorem wellFormed_run_starter :
    let start := starter "a" "b" "c"
    let earlier : List Step := [.select "b", .add .form "d", .move "a" "c", .updateNotes "x" "lost"]
    let later : List Step := [.updateProps "b" .null, .move "c" "c", .remove "d",
      .updateBinding "c" (some ⟨"feed", none, none⟩), .add .cta "d"]
    start.WellFormed ∧ start.Permitted (earlier ++ later) ∧
      (start.run earlier).instanceIds = ["b", "c", "a", "d"] ∧
      (start.run earlier).WellFormed ∧ (start.run earlier).selectedId = some "d" ∧
      (start.run (earlier ++ later.take 3)).selectedId = some "b" ∧
      (start.run (earlier ++ later)).block? "a" = some (.new .hero "a") := by
  intro start earlier later
  have wellFormed : start.WellFormed := ⟨by decide, by decide⟩
  have permitted : start.Permitted (earlier ++ later) := by decide
  obtain ⟨kept, -, blocks⟩ := wellFormed_run wellFormed permitted
  refine ⟨wellFormed, permitted, by decide, kept, by decide, by decide, ?_⟩
  apply blocks (.new .hero "a")
  · decide
  · simp [later, Step.Spares, PlacedBlock.new]

end PageBuilder.Canvas

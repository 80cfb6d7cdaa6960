import Mathlib.Data.List.InsertIdx
import PageBuilder.Proofs.Canvas.Editing
/-! Moving a block. What is left while the block is taken out is the same before and after, so
the others keep their order, and a move over the block that came to its old place undoes it. -/
namespace PageBuilder.Canvas

/-! ### One block at another index -/

section Relocated

variable {blocks : List PlacedBlock} {source target : Nat}

theorem relocate_eq (hs : source < blocks.length) :
    relocate source target blocks = (blocks.eraseIdx source).insertIdx target blocks[source] := by
  unfold relocate
  rw [List.getElem?_eq_getElem hs]

theorem lt_length_relocate {i : Nat} (hs : source < blocks.length) (ht : target < blocks.length)
    (hi : i < blocks.length) : i < (relocate source target blocks).length := by
  rwa [(relocate_perm hs ht).length_eq]

theorem getElem_relocate (hs : source < blocks.length)
    (fits : target < (relocate source target blocks).length) :
    (relocate source target blocks)[target] = blocks[source] := by
  simp only [relocate_eq hs, List.getElem_insertIdx_self]

theorem eraseIdx_relocate (hs : source < blocks.length) :
    (relocate source target blocks).eraseIdx target = blocks.eraseIdx source := by
  rw [relocate_eq hs, List.eraseIdx_insertIdx_self]

theorem relocate_relocate (hs : source < blocks.length) (ht : target < blocks.length) :
    relocate target source (relocate source target blocks) = blocks := by
  have fits := lt_length_relocate hs ht ht
  rw [relocate_eq fits, eraseIdx_relocate hs, getElem_relocate hs fits,
    List.insertIdx_eraseIdx_getElem hs]

theorem filter_eraseIdx {p : PlacedBlock → Bool} {i : Nat} (hi : i < blocks.length)
    (h : p blocks[i] = false) : (blocks.eraseIdx i).filter p = blocks.filter p := by
  have parted : blocks.take i ++ blocks[i] :: blocks.drop (i + 1) = blocks := by
    rw [← List.drop_eq_getElem_cons hi, List.take_append_drop]
  calc (blocks.eraseIdx i).filter p
      = (blocks.take i ++ blocks[i] :: blocks.drop (i + 1)).filter p := by
        rw [List.eraseIdx_eq_take_drop_succ, List.filter_append, List.filter_append,
          List.filter_cons_of_neg (by simp [h])]
    _ = blocks.filter p := by rw [parted]

/-- The blocks that are not moved keep their order. -/
theorem filter_relocate {p : PlacedBlock → Bool} (hs : source < blocks.length)
    (ht : target < blocks.length) (h : p blocks[source] = false) :
    (relocate source target blocks).filter p = blocks.filter p := by
  have fits := lt_length_relocate hs ht ht
  have moved : p (relocate source target blocks)[target] = false := by
    rwa [getElem_relocate hs fits]
  rw [← filter_eraseIdx fits moved, eraseIdx_relocate hs, filter_eraseIdx hs h]

end Relocated

/-! ### Moves on a canvas -/

section Moved

variable {c : Canvas}

theorem index?_of_getElem? (distinct : c.instanceIds.Nodup) {i : Nat} {b : PlacedBlock}
    (h : c.blocks[i]? = some b) : c.index? b.instanceId = some i := by
  obtain ⟨hi, rfl⟩ := List.getElem?_eq_some_iff.mp h
  refine List.findIdx?_eq_some_iff_getElem.mpr ⟨hi, by simp, fun j hj same => ?_⟩
  have ids : c.instanceIds[j]? = c.instanceIds[i]? := by
    simpa [instanceIds, Nat.lt_trans hj hi, hi] using same
  have inside : j < c.instanceIds.length := by
    rw [instanceIds, List.length_map]
    exact Nat.lt_trans hj hi
  exact Nat.ne_of_lt hj ((List.getElem?_inj inside distinct).mp ids)

theorem index?_eq_none {instanceId : String} (h : instanceId ∉ c.instanceIds) :
    c.index? instanceId = none := by
  refine List.findIdx?_eq_none_iff.mpr fun b hb => ?_
  have other : b.instanceId ≠ instanceId := fun same => h (List.mem_map.mpr ⟨b, hb, same⟩)
  simpa using other

variable {activeId overId : String}

theorem move_eq_self (h : activeId = overId ∨ activeId ∉ c.instanceIds ∨ overId ∉ c.instanceIds) :
    c.move activeId overId = c := by
  unfold move
  split
  · rfl
  · rename_i other
    rcases h with same | absent | absent
    · exact absurd same other
    · rw [index?_eq_none absent]
    · rw [index?_eq_none absent]
      cases c.index? activeId <;> rfl

theorem selectedId_move_of_mem {id : String} (selected : id ∈ c.selectedId)
    (held : id ∈ c.instanceIds) : (c.move activeId overId).selectedId = c.selectedId := by
  have there : ∀ blocks : List PlacedBlock, blocks.Perm c.blocks →
      (c.selectedId.any fun id => blocks.any fun b => b.instanceId = id) = true := by
    intro blocks same
    obtain ⟨b, hb, rfl⟩ := List.mem_map.mp held
    rw [Option.mem_def.mp selected, Option.any_some, List.any_eq_true]
    exact ⟨b, same.mem_iff.mpr hb, by simp⟩
  unfold move
  split
  · rfl
  · split
    · rename_i source target hs ht
      exact if_pos (there _ (relocate_perm (lt_length_of_index? hs) (lt_length_of_index? ht)))
    · rfl

variable {i j : Nat} {moved aim : PlacedBlock}

theorem blocks_move (distinct : c.instanceIds.Nodup) (hm : c.blocks[i]? = some moved)
    (ho : c.blocks[j]? = some aim) (other : moved.instanceId ≠ aim.instanceId) :
    (c.move moved.instanceId aim.instanceId).blocks = relocate i j c.blocks := by
  simp only [move, if_neg other, index?_of_getElem? distinct hm, index?_of_getElem? distinct ho]

/-- The move over the block that is at the old index now leads back. -/
theorem exists_move_back (distinct : c.instanceIds.Nodup) (hm : c.blocks[i]? = some moved)
    (ho : c.blocks[j]? = some aim) (other : moved.instanceId ≠ aim.instanceId) :
    let next := c.move moved.instanceId aim.instanceId
    next.blocks[j]? = some moved ∧ ∃ behind, next.blocks[i]? = some behind ∧
      (next.move moved.instanceId behind.instanceId).blocks = c.blocks := by
  intro next
  have hs : i < c.blocks.length := (List.getElem?_eq_some_iff.mp hm).1
  have ht : j < c.blocks.length := (List.getElem?_eq_some_iff.mp ho).1
  have blocks : next.blocks = relocate i j c.blocks := blocks_move distinct hm ho other
  have arrived : next.blocks[j]? = some moved := by
    have inside := lt_length_relocate hs ht ht
    rw [blocks, List.getElem?_eq_getElem inside, getElem_relocate hs inside,
      ← List.getElem?_eq_getElem hs, hm]
  have nextDistinct : next.instanceIds.Nodup :=
    ((blocks_move_perm c _ _).map _).nodup_iff.mpr distinct
  have fits : i < next.blocks.length := blocks ▸ lt_length_relocate hs ht hs
  have left : next.blocks[i]? = some next.blocks[i] := List.getElem?_eq_getElem fits
  have apart : moved.instanceId ≠ next.blocks[i].instanceId := by
    intro same
    have here := index?_of_getElem? nextDistinct arrived
    rw [same, index?_of_getElem? nextDistinct left, Option.some.injEq] at here
    rw [here, ho, Option.some.injEq] at hm
    exact other (by rw [hm])
  refine ⟨arrived, next.blocks[i], left, ?_⟩
  rw [blocks_move nextDistinct arrived left apart, blocks, relocate_relocate hs ht]

end Moved

/-- On a canvas with distinct ids, a block that is moved over another one stands at its index,
among the same blocks, the others of which keep their order; and it can be moved back. All
other moves change nothing, and none changes a selection that names a block. -/
theorem move_reversible {c : Canvas} (distinct : c.instanceIds.Nodup) :
    (∀ (i j : Nat) (moved aim : PlacedBlock), c.blocks[i]? = some moved →
      c.blocks[j]? = some aim → moved.instanceId ≠ aim.instanceId →
      let next := c.move moved.instanceId aim.instanceId
      next.blocks.Perm c.blocks ∧ next.blocks[j]? = some moved ∧
        (next.blocks.filter fun b => b.instanceId ≠ moved.instanceId) =
          (c.blocks.filter fun b => b.instanceId ≠ moved.instanceId) ∧
        ∃ behind, next.blocks[i]? = some behind ∧
          (next.move moved.instanceId behind.instanceId).blocks = c.blocks) ∧
      (∀ activeId overId,
        activeId = overId ∨ activeId ∉ c.instanceIds ∨ overId ∉ c.instanceIds →
        c.move activeId overId = c) ∧
      ∀ activeId overId, ∀ id ∈ c.selectedId, id ∈ c.instanceIds →
        (c.move activeId overId).selectedId = c.selectedId := by
  refine ⟨fun i j moved aim hm ho other => ?_, fun _ _ => move_eq_self,
    fun _ _ _ => selectedId_move_of_mem⟩
  obtain ⟨hs, movedIs⟩ := List.getElem?_eq_some_iff.mp hm
  have ht : j < c.blocks.length := (List.getElem?_eq_some_iff.mp ho).1
  obtain ⟨arrived, back⟩ := exists_move_back distinct hm ho other
  refine ⟨blocks_move_perm .., arrived, ?_, back⟩
  rw [blocks_move distinct hm ho other]
  exact filter_relocate hs ht (by simp [movedIs])

/-- Four blocks: the first one goes to the end, past the two in between, and back again; an
unknown id and a move over itself change nothing. -/
theorem move_reversible_first_to_end :
    let block (instanceId : String) : PlacedBlock := .new .hero instanceId
    let c : Canvas := ⟨[block "a", block "b", block "c", block "d"], some "b"⟩
    let next := c.move "a" "d"
    c.instanceIds.Nodup ∧ c.blocks[0]? = some (block "a") ∧ c.blocks[3]? = some (block "d") ∧
      next.instanceIds = ["b", "c", "d", "a"] ∧ next.blocks[3]? = some (block "a") ∧
      (∃ behind, next.blocks[0]? = some behind ∧ behind.instanceId = "b" ∧
        (next.move "a" behind.instanceId).blocks = c.blocks) ∧
      c.move "a" "x" = c ∧ c.move "b" "b" = c ∧ next.selectedId = some "b" := by
  intro block c next
  have distinct : c.instanceIds.Nodup := by decide
  obtain ⟨moves, rests, selection⟩ := move_reversible distinct
  obtain ⟨-, arrived, -, behind, left, back⟩ :=
    moves 0 3 (block "a") (block "d") rfl rfl (by decide)
  have first : behind = block "b" := (Option.some.inj left).symm
  refine ⟨distinct, rfl, rfl, by decide, arrived, ⟨behind, left, by rw [first]; rfl, back⟩,
    rests "a" "x" (by decide), rests "b" "b" (by decide), ?_⟩
  exact selection "a" "d" "b" rfl (by decide)

end PageBuilder.Canvas

import PageBuilder.Proofs.Canvas.Normalization
import PageBuilder.Proofs.Canvas.Reading
import PageBuilder.Proofs.Store.Operations
/-! What the owner of a project loads: a canvas that was saved, normalized and otherwise
as it was, and of any other stored value as much as can be read of it. -/
namespace PageBuilder.Store

open Canvas (readBlocks)
open Json (Value)

variable {store : Store} {owner projectId : String}

/-! ### Saved canvases -/

/-- Writing a canvas loses nothing. So it is saved and loaded normalized, and what was
loaded is saved and loaded as it is. -/
theorem load_save_load (c : Canvas) :
    Canvas.read c.toValue = .ok c ∧
      ∀ (store : Store) (owner projectId : String), store.migrated = true →
        store.owns owner projectId = true →
        ∃ saved, store.save owner projectId c = .ok saved ∧
          saved.load owner projectId = .ok (some c.normalize) ∧
          ∃ again, saved.save owner projectId c.normalize = .ok again ∧
            again.load owner projectId = .ok (some c.normalize) := by
  refine ⟨c.read_toValue, fun store owner projectId migrated owns => ?_⟩
  have owns' : (store.putRaw projectId c.toValue).owns owner projectId = true := by
    rw [owns_putRaw, owns]
  have saved : store.save owner projectId c = .ok (store.putRaw projectId c.toValue) :=
    save_eq_ok_iff.mpr ⟨owns, migrated, rfl⟩
  have again : (store.putRaw projectId c.toValue).save owner projectId c.normalize =
      .ok ((store.putRaw projectId c.toValue).putRaw projectId c.normalize.toValue) :=
    save_eq_ok_iff.mpr ⟨owns', migrated, rfl⟩
  refine ⟨_, saved, load_of_save owns saved, _, again, ?_⟩
  rw [load_of_save owns' again, Canvas.normalize_normalize]

/-- A hero with a title alone, which is repaired, and a block of an unknown kind with empty
notes and a binding that has an empty list of mappings and no pin. -/
theorem load_save_load_draft :
    let c : Canvas := ⟨[
      ⟨"block-1", "hero", .object [("title", .string "Hi")], none, none⟩,
      ⟨"block-2", "map", .array [.null], some "", some ⟨"feed", none, some []⟩⟩], some "block-3"⟩
    let store : Store := ⟨[("site", ⟨"ada", none⟩)], [], true⟩
    store.migrated = true ∧ store.owns "ada" "site" = true ∧ c.normalize ≠ c ∧
      ∃ saved, store.save "ada" "site" c = .ok saved ∧
        saved.load "ada" "site" = .ok (some c.normalize) ∧
        ∃ again, saved.save "ada" "site" c.normalize = .ok again ∧
          again.load "ada" "site" = .ok (some c.normalize) := by
  intro c store
  have owns : store.owns "ada" "site" = true := by decide
  exact ⟨rfl, owns, by decide, (load_save_load c).2 store "ada" "site" rfl owns⟩

/-! ### Any stored value -/

theorem load_putRaw (migrated : store.migrated = true) (owns : store.owns owner projectId = true)
    (v : Value) :
    (store.putRaw projectId v).load owner projectId =
      .ok ((Canvas.read v).toOption.map Canvas.normalize) := by
  refine load_eq_ok_iff.mpr ⟨?_, ?_⟩
  · rw [owns_putRaw, owns]
  · rw [if_pos (show (store.putRaw projectId v).migrated = true from migrated),
      stored?_putRaw_eq (isSome_project?_of_owns owns), readCanvas]

/-- A stored value is a canvas if it is an object, or an array of no more elements than a
canvas has fields. Each field of an object is read by itself, and each item of the list of
blocks too, so what is of the wrong form takes nothing else along; and loading never fails. -/
theorem load_putRaw_degrades :
    (∀ v, (∃ c, Canvas.read v = .ok c) ↔
      v.isObject = true ∨ ∃ items, v = .array items ∧ items.length ≤ 2) ∧
    (∀ v c, v.isObject = true → Canvas.read v = .ok c → c.KeptOf v) ∧
    (∀ items more, readBlocks (items ++ more) = readBlocks items ++ readBlocks more) ∧
    (∀ item, item.items? = none →
      (readBlocks [item] ≠ [] ↔
        item.isObject = true ∧ item.HoldsText "instanceId" ∧ item.HoldsText "blockId") ∧
      ∀ b ∈ readBlocks [item], readBlocks [item] = [b] ∧ b.KeptOf item) ∧
    ∀ (store : Store) (owner projectId : String) (v : Value), store.migrated = true →
      store.owns owner projectId = true →
      ∃ result, (store.putRaw projectId v).load owner projectId = .ok result ∧
        (result = none ↔ ∃ e, Canvas.read v = .error e) ∧
        ∀ c ∈ result, c.normalize = c ∧ ∃ d, Canvas.read v = .ok d ∧ c = d.normalize := by
  refine ⟨fun v => Canvas.exists_read_iff, ?_, Canvas.readBlocks_append, ?_, ?_⟩
  · intro v c object read
    have plain : v.items? = none := Value.items?_eq_none_of_isObject object
    obtain ⟨-, rfl⟩ := (Canvas.read_eq_ok_iff plain).mp read
    exact Canvas.keptOf_ofPlain v
  · intro item plain
    refine ⟨Canvas.readBlocks_singleton_ne_nil_iff plain, fun b hb => ?_⟩
    have read := Canvas.mem_readBlocks_singleton.mp hb
    refine ⟨?_, PlacedBlock.keptOf_of_read plain read⟩
    rw [Canvas.readBlocks_singleton, read]
    rfl
  · intro store owner projectId v migrated owns
    refine ⟨_, load_putRaw migrated owns v, ?_⟩
    cases Canvas.read v with
    | error e => simp [Except.toOption]
    | ok d => simp [Except.toOption, Canvas.normalize_normalize]

/-- The selection is no text. Of the items one is no object, one lacks an id, and one is a
block whose notes and pin are of other types. -/
theorem load_putRaw_degrades_odd_value :
    let link : Value := .object [("sampleId", .bool true), ("sourceId", .string "feed")]
    let block : Value := .object [("notes", .null), ("dataBinding", link),
      ("blockId", .string "map"), ("instanceId", .string "x"), ("color", .null)]
    let v : Value := .object [("selectedInstanceId", .array []),
      ("blocks", .array [.string "lost", .object [("blockId", .string "map")], block])]
    let c : Canvas := ⟨[⟨"x", "map", .null, none, some ⟨"feed", none, none⟩⟩], none⟩
    let store : Store := ⟨[("site", ⟨"ada", none⟩)], [], true⟩
    (v.isObject = true ∧ Canvas.read v = .ok c ∧ c.KeptOf v) ∧
      (block.items? = none ∧ readBlocks [block] = c.blocks ∧ ∀ b ∈ c.blocks, b.KeptOf block) ∧
      store.migrated = true ∧ store.owns "ada" "site" = true ∧
      ∃ result, (store.putRaw "site" v).load "ada" "site" = .ok result ∧
        (result = none ↔ ∃ e, Canvas.read v = .error e) ∧
        ∀ c ∈ result, c.normalize = c ∧ ∃ d, Canvas.read v = .ok d ∧ c = d.normalize := by
  intro link block v c store
  have read : Canvas.read v = .ok c := by rfl
  have owns : store.owns "ada" "site" = true := by decide
  obtain ⟨-, canvas, -, items, loads⟩ := load_putRaw_degrades
  exact ⟨⟨rfl, read, canvas v c rfl read⟩, ⟨rfl, rfl, fun b hb => ((items block rfl).2 b hb).2⟩,
    rfl, owns, loads store "ada" "site" v rfl owns⟩

end PageBuilder.Store

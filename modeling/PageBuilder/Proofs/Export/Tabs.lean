import PageBuilder.Export.Next
import PageBuilder.Proofs.Block.StageIds
/-! Tabs of a workflow made of the components of the kit. Triggers and contents carry the ids of
the stages, so a trigger selects one content if the ids are distinct. -/
namespace PageBuilder.Export.Kit

open Block (Stage Clash ownId? idAt)
open Json (Value)
open Markup (AttrValue Node el textAttr)

/-- The values of the elements of a tree with the tag, in their order. -/
def valuesOf (tag : String) (tree : Node) : List (Option AttrValue) :=
  (tree.walk.filter fun e => e.1 = tag).map fun e => Assoc.get? "value" e.2

/-- Every trigger has a value, and one content has the same. -/
def TabsSelectOne (tree : Node) : Prop :=
  ∀ value ∈ valuesOf "TabsTrigger" tree, value.isSome = true ∧
    (valuesOf "TabsContent" tree).count value = 1

/-- The values that the ids of the stages are. -/
def valuesFor (stages : List Stage) : List (Option AttrValue) :=
  (stages.map Stage.id).map fun id => some (.text id)

/-! ### Values in a tree -/

theorem valuesOf_element (tag other : String) (attrs : Markup.Attrs) (children : List Node) :
    valuesOf tag (.element other attrs children) =
      if other = tag then Assoc.get? "value" attrs :: children.flatMap (valuesOf tag)
      else children.flatMap (valuesOf tag) := by
  have inside : ((Node.walkAll children).filter fun e => e.1 = tag).map
      (fun e => Assoc.get? "value" e.2) = children.flatMap (valuesOf tag) := by
    rw [Node.walkAll_eq_flatMap, List.filter_flatMap, List.map_flatMap]
    rfl
  rw [valuesOf, Node.walk, List.filter_cons]
  split <;> simp_all

theorem valuesOf_text (tag text : String) : valuesOf tag (.text text) = [] :=
  rfl

theorem valuesOf_trigger (s : Stage) :
    valuesOf "TabsTrigger" (trigger s) = [some (.text s.id)] ∧
      valuesOf "TabsContent" (trigger s) = [] :=
  ⟨rfl, rfl⟩

theorem valuesOf_stage (s : Stage) :
    valuesOf "TabsContent" (stage s) = [some (.text s.id)] ∧
      valuesOf "TabsTrigger" (stage s) = [] := by
  simp [stage, text, el, Markup.label, valuesOf_element, valuesOf_text, textAttr, Assoc.get?,
    List.flatMap_map]

theorem valuesOf_workflow (stages : List Stage) :
    valuesOf "TabsTrigger" (workflow stages) = valuesFor stages ∧
      valuesOf "TabsContent" (workflow stages) = valuesFor stages := by
  have none : (stages.flatMap fun _ => ([] : List (Option AttrValue))) = [] :=
    List.flatMap_eq_nil_iff.mpr fun _ _ => rfl
  simp [workflow, valuesFor, el, valuesOf_element, List.flatMap_map, valuesOf_trigger,
    valuesOf_stage, ← List.map_eq_flatMap, none, Function.comp_def]

/-- The panel with the data of a section holds no tabs. -/
theorem valuesOf_render {s : PageSection} {stages : List Stage}
    (shown : s.props = some (.workflow stages)) (settings : ExportSettings) :
    valuesOf "TabsTrigger" (render settings s) = valuesFor stages ∧
      valuesOf "TabsContent" (render settings s) = valuesFor stages := by
  cases held : s.data with
  | none =>
    rw [render, shown, held]
    exact valuesOf_workflow stages
  | some data =>
    rw [render, shown, held]
    simp [el, dataPanel, text, Markup.label, body, valuesOf_element, valuesOf_text,
      valuesOf_workflow]

theorem tabsSelectOne_of_nodup {s : PageSection} {stages : List Stage}
    (shown : s.props = some (.workflow stages)) (distinct : (stages.map Stage.id).Nodup)
    (settings : ExportSettings) : TabsSelectOne (render settings s) := by
  intro value hv
  obtain ⟨triggers, contents⟩ := valuesOf_render shown settings
  rw [triggers] at hv
  have values : (valuesFor stages).Nodup :=
    distinct.map fun a b same => by simpa using same
  refine ⟨?_, contents ▸ List.count_eq_one_of_mem values hv⟩
  obtain ⟨id, -, rfl⟩ := List.mem_map.mp hv
  rfl

/-! ### Repaired stages -/

/-- Where the items of a list of stages bring distinct ids along, the ids after repair are
distinct unless items clash, and then each trigger of the section selects one content. -/
theorem repaired_ids_distinct_iff {v : Value} {items : List Value}
    (held : v.member? "stages" = some (.array items)) (nonempty : items ≠ [])
    (distinct : (items.filterMap ownId?).Nodup) :
    ∃ stages, Block.Props.repair .workflow v = .workflow stages ∧
      ((stages.map Stage.id).Nodup ↔ ¬ Clash items) ∧
      (¬ Clash items → ∀ settings sources position block, block.kind? = some .workflow →
        block.props = v →
        let tree := render settings (.ofBlock sources position block)
        valuesOf "TabsTrigger" tree = valuesFor stages ∧ TabsSelectOne tree) := by
  obtain ⟨stages, repaired, ids⟩ := Block.ids_repair (Value.itemsAt_of_member? held) nonempty
  have unclashed : (stages.map Stage.id).Nodup ↔ ¬ Clash items := by
    rw [ids]
    exact Block.nodup_ids_iff distinct
  refine ⟨stages, repaired, unclashed, fun free settings sources position block known raw => ?_⟩
  have shown : (PageSection.ofBlock sources position block).props = some (.workflow stages) := by
    simp [PageSection.ofBlock, PlacedBlock.props?, known, raw, repaired]
  have distinct := unclashed.mpr free
  exact ⟨(valuesOf_render shown settings).1, tabsSelectOne_of_nodup shown distinct settings⟩

/-- The second of three items, and the third, which is no object, come to free ids. -/
theorem repaired_ids_distinct_free_turns :
    let items : List Value := [.object [("id", .string "launch")],
      .object [("id", .string " "), ("title", .string "Build it")], .string "garbage"]
    let block : PlacedBlock := ⟨"b1", "workflow", .object [("stages", .array items)], none, none⟩
    block.props.member? "stages" = some (.array items) ∧ items ≠ [] ∧
      (items.filterMap ownId?).Nodup ∧ ¬ Clash items ∧
      ∃ stages, Block.Props.repair .workflow block.props = .workflow stages ∧
        (stages.map Stage.id).Nodup ∧
        TabsSelectOne (render {} (.ofBlock [] 0 block)) := by
  intro items block
  have nonempty : items ≠ [] := List.cons_ne_nil _ _
  have distinct : (items.filterMap ownId?).Nodup := by decide
  obtain ⟨stages, repaired, unclashed, tabs⟩ :=
    repaired_ids_distinct_iff (v := block.props) rfl nonempty distinct
  have ids : stages.map Stage.id = ["launch", "build", "handoff"] := by
    cases repaired
    rfl
  have unique : (stages.map Stage.id).Nodup := by
    rw [ids]
    decide
  have free := unclashed.mp unique
  have selects := (tabs free {} [] 0 block rfl rfl).2
  exact ⟨rfl, nonempty, distinct, free, stages, repaired, unique, selects⟩

/-- The first item brings the id along that the second, which has none, comes to. Both triggers
then select both contents. -/
theorem repaired_ids_clash :
    let items : List Value := [.object [("id", .string "build")], .object []]
    let block : PlacedBlock := ⟨"b1", "workflow", .object [("stages", .array items)], none, none⟩
    block.kind? = some .workflow ∧ block.props.member? "stages" = some (.array items) ∧
      items ≠ [] ∧ (items.filterMap ownId?).Nodup ∧
      ∃ stages, Block.Props.repair .workflow block.props = .workflow stages ∧
        ¬ (stages.map Stage.id).Nodup ∧ ¬ TabsSelectOne (render {} (.ofBlock [] 0 block)) := by
  intro items block
  refine ⟨by decide, rfl, List.cons_ne_nil _ _, by decide, _, rfl, by decide, fun tabs => ?_⟩
  have := (tabs (some (.text "build")) (by decide)).2
  revert this
  decide

end PageBuilder.Export.Kit

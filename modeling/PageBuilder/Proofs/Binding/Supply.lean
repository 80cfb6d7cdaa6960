import PageBuilder.Proofs.Binding.Projection
import PageBuilder.Proofs.Block.Fields
import PageBuilder.Proofs.Block.Retraction
/-! What a block shows of its data. Mapped values reach the props that they are mapped to and no
others, and what a block shows is valid whatever its data is. -/
namespace PageBuilder.Binding

open Json (Value)

/-! ### The data of a block -/

/-- The cache holds an object or a list for the source. -/
def Live (live : Option LiveCache) (sourceId : String) (data : Value) : Prop :=
  ∃ cache, live = some cache ∧ cache.data? sourceId = some data ∧ data.isContainer = true

/-- The binding pins a sample of its source, with an object or a list as its payload. -/
def Pinned (sources : List DataSource) (binding : DataBinding) (data : Value) : Prop :=
  ∃ source sampleId sample, sources.find? (fun s => s.id = binding.sourceId) = some source ∧
    binding.sampleId = some sampleId ∧ source.sample? sampleId = some sample ∧
    sample.payload.isContainer = true ∧ sample.payload = data

/-- Live data is chosen, and where there is none the pinned sample. -/
inductive Chosen (sources : List DataSource) (live : Option LiveCache) (binding : DataBinding) :
    Value → Prop where
  | live {data : Value} (h : Live live binding.sourceId data) : Chosen sources live binding data
  | pinned {data : Value} (none : ∀ data, ¬ Live live binding.sourceId data)
    (h : Pinned sources binding data) : Chosen sources live binding data

variable {sources : List DataSource} {live : Option LiveCache} {binding : DataBinding}
  {data : Value}

theorem live_iff {sourceId : String} :
    Live live sourceId data ↔
      (live.bind fun cache => cache.data? sourceId).filter Value.isContainer = some data := by
  simp only [Live, Option.filter_eq_some_iff, Option.bind_eq_some_iff, ← exists_and_right,
    and_assoc]

theorem pinned_iff :
    Pinned sources binding data ↔
      pinnedPayload? sources binding.sourceId binding.sampleId = some data := by
  simp [Pinned, pinnedPayload?, Option.bind_eq_some_iff]

theorem dataFor?_eq_some_iff :
    dataFor? sources live binding = some data ↔ Chosen sources live binding data := by
  rw [dataFor?, Option.or_eq_some_iff, ← live_iff, ← pinned_iff]
  constructor
  · rintro (h | ⟨none, h⟩)
    · exact .live h
    · exact .pinned (fun data held => by simp [live_iff.mp held] at none) h
  · rintro (h | ⟨none, h⟩)
    · exact .inl h
    · refine .inr ⟨Option.eq_none_iff_forall_ne_some.mpr fun data held => ?_, h⟩
      exact none data (live_iff.mpr held)

/-! ### Mapped values -/

theorem member?_project {key : String} {mappings : List FieldMapping}
    (h : key ∉ targets data mappings) (base : Value) :
    (project base data mappings).member? key = base.member? key := by
  by_cases none : updates data mappings = []
  · rw [project_of_updates_eq_nil none]
  · rw [project_of_updates_ne_nil none, Value.member?, Assoc.get?_foldl_put,
      get?_reverse_updates_eq_none h, Option.none_or, get?_membersOf]

/-- A mapping for the prop leads to a value in the data that is chosen for the block. -/
def Supplied (sources : List DataSource) (live : Option LiveCache) (block : PlacedBlock)
    (key : String) : Prop :=
  ∃ binding data, block.binding = some binding ∧ Chosen sources live binding data ∧
    ∃ m ∈ binding.mappings, m.targetProp = key ∧ Leads data m

variable {block : PlacedBlock}

theorem not_supplied_iff (bound : block.binding = some binding)
    (chosen : dataFor? sources live binding = some data) {key : String} :
    ¬ Supplied sources live block key ↔ key ∉ targets data binding.mappings := by
  rw [not_mem_targets_iff]
  constructor
  · intro h m hm target leads
    exact h ⟨binding, data, bound, dataFor?_eq_some_iff.mp chosen, m, hm, target, leads⟩
  · rintro h ⟨_, _, bound', chosen', m, hm, target, leads⟩
    cases bound.symm.trans bound'
    cases chosen.symm.trans (dataFor?_eq_some_iff.mpr chosen')
    exact h m hm target leads

/-- What is repaired for display differs from the block's own props only where these are
supplied. -/
theorem exists_blockProps?_eq {kind : Block.Kind} (known : block.kind? = some kind) :
    ∃ raw, blockProps? sources live block = some (.repair kind raw) ∧
      ∀ key, ¬ Supplied sources live block key →
        raw.member? key = (Block.Props.repair kind block.props).toValue.member? key := by
  -- Without data the own props are shown, and these are repaired to themselves.
  have own : some (Block.Props.repair kind block.props) =
      some (.repair kind (Block.Props.repair kind block.props).toValue) := by
    rw [Block.Props.repair_repair]
  simp only [blockProps?, blockData?, known, Option.map_some, Option.isNone_some]
  cases bound : block.binding with
  | none => exact ⟨_, own, fun _ _ => rfl⟩
  | some binding =>
    cases chosen : dataFor? sources live binding with
    | none => exact ⟨_, by simpa [chosen] using own, fun _ _ => rfl⟩
    | some data =>
      refine ⟨project (Block.Props.repair kind block.props).toValue data binding.mappings,
        by simp [chosen], fun key h => ?_⟩
      exact member?_project ((not_supplied_iff bound chosen).mp h) _

/-- A block of a known kind shows valid props of that kind, whatever data it is bound to. A
field that no mapping supplies from the chosen data holds what it holds without any data, and
where this goes for every field of the kind, the props are those without data. -/
theorem blockProps?_supplied {kind : Block.Kind} (known : block.kind? = some kind) :
    let own := Block.Props.repair kind block.props
    ∃ shown, blockProps? sources live block = some shown ∧ shown.kind = kind ∧
      Block.Props.repair kind shown.toValue = shown ∧
      (∀ key, ¬ Supplied sources live block key →
        shown.toValue.member? key = own.toValue.member? key) ∧
      ((∀ key ∈ kind.keys, ¬ Supplied sources live block key) → shown = own) := by
  intro own
  obtain ⟨raw, shown, untouched⟩ := @exists_blockProps?_eq sources live block kind known
  have same (key : String) (h : ¬ Supplied sources live block key) :
      Block.AgreeAt key raw own.toValue :=
    .of_eq (untouched key h)
  refine ⟨.repair kind raw, shown, Block.Props.kind_repair .., Block.Props.repair_repair .., ?_, ?_⟩
  · intro key h
    rw [Block.Props.member?_repair_congr kind (same key h), Block.Props.repair_repair]
  · intro none
    rw [Block.Props.repair_congr fun key hk => same key (none key hk), Block.Props.repair_repair]

/-- The live data is no container, so the sample counts. Of its values one is mapped to a text, a
number to another, one to no prop of the kind, and a mapping leads to nothing. -/
theorem blockProps?_supplied_odd_values :
    let payload : Value := .object [("name", .string "Ada"), ("count", .number (.integer 3))]
    let source : DataSource :=
      ⟨"users", "Users", .mock, none, none, none, none, .null, [⟨"one", "First", payload⟩]⟩
    let live : LiveCache := ⟨[("users", ⟨some (.string "down"), false, none, 1⟩)], 1⟩
    let mappings : List FieldMapping :=
      [⟨"name", "title"⟩, ⟨"count", "badge"⟩, ⟨"name", "color"⟩, ⟨"age", "description"⟩]
    let block : PlacedBlock := ⟨"b1", "cta", .object [("description", .string "Own")], none,
      some ⟨"users", some "one", some mappings⟩⟩
    let own := Block.Props.repair .cta block.props
    block.kind? = some .cta ∧ ¬ Supplied [source] (some live) block "description" ∧
      Supplied [source] (some live) block "title" ∧
      ∃ shown, blockProps? [source] (some live) block = some shown ∧ shown.kind = .cta ∧
        Block.Props.repair .cta shown.toValue = shown ∧
        shown.toValue.member? "description" = own.toValue.member? "description" := by
  intro payload source live mappings block own
  have known : block.kind? = some .cta := by decide
  have chosen : dataFor? [source] (some live) ⟨"users", some "one", some mappings⟩ =
      some payload := by decide
  have lost : ¬ Supplied [source] (some live) block "description" :=
    (not_supplied_iff rfl chosen).mpr (by decide)
  have title : Supplied [source] (some live) block "title" :=
    ⟨_, payload, rfl, dataFor?_eq_some_iff.mp chosen, ⟨"name", "title"⟩,
      List.mem_cons_self .., rfl, by decide⟩
  obtain ⟨shown, shows, kind, valid, untouched, -⟩ := blockProps?_supplied known
  exact ⟨known, lost, title, shown, shows, kind, valid, untouched _ lost⟩

end PageBuilder.Binding

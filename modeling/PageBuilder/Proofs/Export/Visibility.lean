import PageBuilder.Export.Generate
import PageBuilder.Proofs.Block.Sameness
import PageBuilder.Proofs.Canvas.Equivalence
import PageBuilder.Proofs.Json.Records
/-! What an export and a preview can see of a canvas. An export sees the block ids, the
repaired props and what the bindings pin; a preview also sees the mappings. Nothing else
shows in any file, and canvases that are equivalent look the same in both. -/
namespace PageBuilder

open Json (Value)

/-! ### What is seen of a block -/

/-- What a binding pins, without its mappings. -/
def DataBinding.pin (b : DataBinding) : String × Option String :=
  (b.sourceId, b.sampleId)

namespace PlacedBlock

/-- The blocks are the same to an export. -/
structure ExportsLike (a b : PlacedBlock) : Prop where
  blockId : a.blockId = b.blockId
  props : a.props? = b.props?
  pin : a.binding.map DataBinding.pin = b.binding.map DataBinding.pin

/-- The blocks are the same to a preview. -/
structure PreviewsLike (a b : PlacedBlock) : Prop where
  blockId : a.blockId = b.blockId
  props : a.props? = b.props?
  binding : a.binding = b.binding

variable {a b : PlacedBlock}

theorem PreviewsLike.exportsLike (h : a.PreviewsLike b) : a.ExportsLike b :=
  ⟨h.blockId, h.props, congrArg _ h.binding⟩

theorem previewsLike_of_view (h : a.view = b.view) : a.PreviewsLike b := by
  simp only [view, View.mk.injEq] at h
  obtain ⟨blockId, -, props, -, binding⟩ := h
  have kinds : b.kind? = a.kind? := congrArg Block.Kind.ofId? blockId.symm
  refine ⟨blockId, ?_, binding⟩
  cases hk : a.kind? with
  | none => simp [props?, kinds, hk]
  | some kind =>
    rw [kinds, hk] at props
    simpa [props?, kinds, hk] using Sum.inl.inj props

end PlacedBlock

/-! ### Sections -/

theorem PageSection.ofBlock_congr {a b : PlacedBlock} (h : a.ExportsLike b)
    (sources : List DataSource) (position : Nat) :
    ofBlock sources position a = ofBlock sources position b := by
  have data (x : PlacedBlock) : (ofBlock sources position x).data =
      (x.binding.map DataBinding.pin).bind fun pin => pinnedPayload? sources pin.1 pin.2 := by
    rw [Option.bind_map]
    rfl
  calc ofBlock sources position a
    _ = ⟨position, a.blockId, a.props?, (ofBlock sources position a).data⟩ := rfl
    _ = ⟨position, b.blockId, b.props?, (ofBlock sources position b).data⟩ := by
      rw [data, data, h.blockId, h.props, h.pin]

theorem Export.previewSection_congr {a b : PlacedBlock} (h : a.PreviewsLike b)
    (sources : List DataSource) (live : Option LiveCache) (position : Nat) :
    previewSection sources live position a = previewSection sources live position b := by
  have kinds : a.kind? = b.kind? := congrArg Block.Kind.ofId? h.blockId
  have data : Binding.blockData? sources live a = Binding.blockData? sources live b := by
    rw [Binding.blockData?, Binding.blockData?, kinds, h.binding]
  have props : Binding.blockProps? sources live a = Binding.blockProps? sources live b := by
    have base := h.props
    unfold PlacedBlock.props? at base
    unfold Binding.blockProps?
    rw [kinds] at base ⊢
    cases hk : b.kind? with
    | none => rfl
    | some kind =>
      simp only [hk, Option.map_some, Option.some.injEq] at base
      simp only [Option.map_some, base, data, h.binding]
  rw [previewSection, previewSection, data, props, h.blockId]

theorem PageSection.number_congr {R : PlacedBlock → PlacedBlock → Prop}
    {make : Nat → PlacedBlock → PageSection}
    (h : ∀ a b, R a b → ∀ position, make position a = make position b)
    {as bs : List PlacedBlock} (alike : List.Forall₂ R as bs) (position : Nat) :
    number make position as = number make position bs := by
  induction alike generalizing position with
  | nil => rfl
  | cons head _ ih => rw [number, number, h _ _ head, ih]

namespace Canvas

variable {a b : Canvas}

theorem sections_congr (h : List.Forall₂ PlacedBlock.ExportsLike a.blocks b.blocks)
    (sources : List DataSource) : a.sections sources = b.sections sources := by
  unfold sections
  refine PageSection.number_congr ?_ h 0
  intro _ _ like
  exact PageSection.ofBlock_congr like sources

theorem previewSections_congr (h : List.Forall₂ PlacedBlock.PreviewsLike a.blocks b.blocks)
    (sources : List DataSource) (live : Option LiveCache) :
    Export.previewSections a sources live = Export.previewSections b sources live := by
  unfold Export.previewSections
  refine PageSection.number_congr ?_ h 0
  intro _ _ like
  exact Export.previewSection_congr like sources live

theorem previewsLike_of_equivalent (h : a.equivalent b = true) :
    List.Forall₂ PlacedBlock.PreviewsLike a.blocks b.blocks := by
  obtain ⟨-, blocks⟩ := view_eq_iff.mp (equivalent_iff.mp h)
  exact blocks.imp fun _ _ => PlacedBlock.previewsLike_of_view

end Canvas

/-! ### What only the editor sees -/

/-- The block without what only the editor sees: its instance id, notes, mappings, props
that its kind does not have, and all props if its kind is unknown. -/
def PlacedBlock.strip (b : PlacedBlock) : PlacedBlock where
  instanceId := ""
  blockId := b.blockId
  props :=
    match b.kind? with
    | some kind => b.props.restrict kind.keys
    | none => .null
  notes := none
  binding := b.binding.map fun link => { link with fieldMappings := none }

/-- The canvas without what only the editor sees. -/
def Canvas.strip (c : Canvas) : Canvas :=
  ⟨c.blocks.map PlacedBlock.strip, none⟩

theorem PlacedBlock.strip_exportsLike (b : PlacedBlock) : b.strip.ExportsLike b := by
  have kinds : b.strip.kind? = b.kind? := rfl
  refine ⟨rfl, ?_, ?_⟩
  · rw [props?, props?, kinds]
    cases hk : b.kind? with
    | none => rfl
    | some kind =>
      have kept : Block.Props.repair kind (b.props.restrict kind.keys) =
          Block.Props.repair kind b.props :=
        Block.Props.repair_congr fun key hkey => .of_eq (Value.member?_restrict hkey b.props)
      simp only [strip, hk, Option.map_some, kept]
  · rw [strip, Option.map_map]
    rfl

theorem Canvas.strip_exportsLike (c : Canvas) :
    List.Forall₂ PlacedBlock.ExportsLike c.strip.blocks c.blocks := by
  rw [strip, List.forall₂_map_left_iff, List.forall₂_same]
  exact fun b _ => b.strip_exportsLike

/-! ### Files and pages -/

namespace Export

theorem generate_congr {a b : Canvas}
    (h : List.Forall₂ PlacedBlock.ExportsLike a.blocks b.blocks) (format : ExportFormat)
    (name : String) (sources : List DataSource) (settings : ExportSettings) :
    generate format a name sources settings = generate format b name sources settings := by
  rw [generate, generate, Canvas.sections_congr h sources]

theorem previewPage_congr {a b : Canvas}
    (h : List.Forall₂ PlacedBlock.PreviewsLike a.blocks b.blocks) (name : String)
    (sources : List DataSource) (live : Option LiveCache) (settings : ExportSettings) :
    previewPage a name sources live settings = previewPage b name sources live settings := by
  rw [previewPage, previewPage, Canvas.previewSections_congr h sources live]

/-- Canvases whose blocks are the same to an export have the same files, so nothing shows
of what only the editor sees. Canvases that are equivalent have the same previews too. -/
theorem rendered_eq_of_alike (a b : Canvas) :
    (List.Forall₂ PlacedBlock.ExportsLike a.blocks b.blocks →
      ∀ format name sources settings,
        generate format a name sources settings = generate format b name sources settings) ∧
      (∀ format name sources settings,
        generate format a.strip name sources settings =
          generate format a name sources settings) ∧
      (a.equivalent b = true →
        (∀ format name sources settings,
          generate format a name sources settings = generate format b name sources settings) ∧
        ∀ name sources live settings,
          previewPage a name sources live settings =
            previewPage b name sources live settings) := by
  refine ⟨generate_congr, generate_congr a.strip_exportsLike, fun h => ?_⟩
  have like := Canvas.previewsLike_of_equivalent h
  exact ⟨generate_congr (like.imp fun _ _ => PlacedBlock.PreviewsLike.exportsLike),
    previewPage_congr like⟩

/-- A draft with notes, mappings, a colour that heroes do not have and a block of an
unknown kind, beside its bare form; and a call to action whose props came in another
order. -/
theorem rendered_eq_of_draft :
    let title : String × Value := ("title", .string "Hi")
    let badge : String × Value := ("badge", .string "Now")
    let link : DataBinding := ⟨"feed", some "first", some [⟨"name", "title"⟩]⟩
    let draft : Canvas := ⟨[
      ⟨"block-1", "hero", .object [title, ("color", .null)], some "draft", some link⟩,
      ⟨"block-2", "map", .string "raw", none, none⟩], some "block-1"⟩
    let bare : Canvas := ⟨[
      ⟨"x", "hero", .object [title], none, some ⟨"feed", some "first", none⟩⟩,
      ⟨"y", "map", .null, none, none⟩], none⟩
    let near : Canvas := ⟨[⟨"block-1", "cta", .object [title, badge], none, some link⟩], none⟩
    let far : Canvas := ⟨[
      ⟨"block-1", "cta", .object [badge, ("size", .null), title], none, some link⟩], none⟩
    List.Forall₂ PlacedBlock.ExportsLike draft.blocks bare.blocks ∧
      draft.equivalent bare = false ∧
      generate .nextjs draft "Site" [] {} = generate .nextjs bare "Site" [] {} ∧
      near.equivalent far = true ∧
      previewPage near "Site" [] none {} = previewPage far "Site" [] none {} := by
  intro title badge link draft bare near far
  have alike : List.Forall₂ PlacedBlock.ExportsLike draft.blocks bare.blocks :=
    .cons ⟨rfl, rfl, rfl⟩ (.cons ⟨rfl, rfl, rfl⟩ .nil)
  have equivalent : near.equivalent far = true := by decide
  exact ⟨alike, by decide, (rendered_eq_of_alike draft bare).1 alike .nextjs "Site" [] {},
    equivalent, ((rendered_eq_of_alike near far).2.2 equivalent).2 "Site" [] none {}⟩

end Export

end PageBuilder

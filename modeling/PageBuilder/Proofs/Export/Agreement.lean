import PageBuilder.Export.Generate
import PageBuilder.Proofs.Block.Retraction
import PageBuilder.Proofs.Export.Sections
import PageBuilder.Proofs.Text.Lines
/-! The preview of a canvas and its static export. Both are a frame that is filled with the
lines of the blocks, one after the other. Without live data a block has the same lines in
both unless one of its mappings finds a value, and it shows the same data in any case. -/
namespace PageBuilder

open Json (Value)

/-! ### What a block shows -/

namespace PlacedBlock

/-- The payload that the binding of the block pins. -/
def pinned? (sources : List DataSource) (b : PlacedBlock) : Option Value :=
  b.binding.bind fun link => pinnedPayload? sources link.sourceId link.sampleId

/-- No mapping of the block finds a value in the payload that its binding pins. -/
def Unmapped (sources : List DataSource) (b : PlacedBlock) : Prop :=
  ∀ link ∈ b.binding, ∀ payload ∈ pinnedPayload? sources link.sourceId link.sampleId,
    ∀ m ∈ link.mappings, Binding.lookup payload m.sourcePath = none

end PlacedBlock

namespace Binding

variable {sources : List DataSource} {block : PlacedBlock}

theorem project_of_lost {base data : Value} {mappings : List FieldMapping}
    (lost : ∀ m ∈ mappings, lookup data m.sourcePath = none) :
    project base data mappings = base := by
  have none : updates data mappings = [] := by
    simpa [updates, List.filterMap_eq_nil_iff] using lost
  rw [project, none]

theorem dataFor?_none (link : DataBinding) :
    dataFor? sources none link = pinnedPayload? sources link.sourceId link.sampleId := by
  simp [dataFor?]

theorem blockData?_of_kind {kind : Block.Kind} (known : block.kind? = some kind) :
    blockData? sources none block = block.pinned? sources := by
  simp [blockData?, known, PlacedBlock.pinned?, funext dataFor?_none]

theorem blockProps?_of_unmapped (h : block.Unmapped sources) :
    blockProps? sources none block = block.props? := by
  unfold blockProps? PlacedBlock.props?
  cases known : block.kind? with
  | none => rfl
  | some kind =>
    rw [blockData?_of_kind known, PlacedBlock.pinned?]
    cases bound : block.binding with
    | none => rfl
    | some link =>
      cases held : pinnedPayload? sources link.sourceId link.sampleId with
      | none => simp [held]
      | some payload =>
        have same (base : Value) : project base payload link.mappings = base :=
          project_of_lost (h link bound payload held)
        simp [held, same, Block.Props.repair_repair]

end Binding

namespace Export

open Markup

/-! ### Frames -/

/-- The lines of a page above and below those of its blocks. -/
structure PageFrame where
  above : List String
  below : List String

def PageFrame.fill (frame : PageFrame) (blocks : List (List String)) : String :=
  Text.document (frame.above ++ blocks.flatten ++ frame.below)

theorem writeNodes_eq_flatten {dialect : Dialect} {depth : Nat} (nodes : List Node) :
    writeNodes dialect depth nodes = (nodes.map (writeNode dialect depth)).flatten := by
  induction nodes with
  | nil => rfl
  | cons node rest ih => rw [writeNodes, ih, List.map_cons, List.flatten_cons]

theorem writeNodes_append {dialect : Dialect} {depth : Nat} (nodes more : List Node) :
    writeNodes dialect depth (nodes ++ more) =
      writeNodes dialect depth nodes ++ writeNodes dialect depth more := by
  simp [writeNodes_eq_flatten]

/-- An element with a child that is no text has its children on lines of their own. -/
theorem writeNode_nested {dialect : Dialect} {depth : Nat} {tag : String} {attrs : Attrs}
    {children : List Node} (h : ∃ node ∈ children, node.isText = false) :
    writeNode dialect depth (el tag attrs children) =
      (Text.indent depth ++ "<" ++ dialect.opening tag attrs ++ ">") ::
        (writeNodes dialect (depth + 1) children ++ [Text.indent depth ++ "</" ++ tag ++ ">"]) := by
  obtain ⟨node, hn, nested⟩ := h
  have given : children.isEmpty = false := List.isEmpty_eq_false_iff_exists_mem.mpr ⟨node, hn⟩
  have mixed : children.all Node.isText = false :=
    List.all_eq_false.mpr ⟨node, hn, by simp [nested]⟩
  simp [el, writeNode, given, mixed]

/-- The line that opens an element whose children have lines of their own. -/
def openingLine (depth : Nat) (tag : String) (attrs : Attrs) : String :=
  Text.indent depth ++ "<" ++ Dialect.html.opening tag attrs ++ ">"

def closingLine (depth : Nat) (tag : String) : String :=
  Text.indent depth ++ "</" ++ tag ++ ">"

/-- The frame of a page whose blocks are in an element of the body, with a script behind that. -/
def pageFrame (title : String) (settings : ExportSettings) (extra : List Node) (tag : String)
    (attrs : Attrs) (script : Node) : PageFrame where
  above := ["<!DOCTYPE html>", openingLine 0 "html" [textAttr "lang" settings.htmlLang]] ++
    writeNode .html 1 (headTree title settings extra) ++
    [openingLine 1 "body" [], openingLine 2 tag attrs]
  below := [closingLine 2 tag] ++ writeNode .html 2 script ++
    [closingLine 1 "body", closingLine 0 "html"]

theorem pageText_eq_fill (title : String) (settings : ExportSettings) (extra : List Node)
    (tag : String) (attrs : Attrs) (script : Node) {blocks : List Node}
    (h : ∃ node ∈ blocks, node.isText = false) :
    pageText (pageTree title settings extra (el "body" [] [el tag attrs blocks, script])) =
      (pageFrame title settings extra tag attrs script).fill (blocks.map (writeNode .html 3)) := by
  rw [pageText, pageTree, Markup.render]
  simp only [writeNodes, List.append_nil]
  rw [writeNode_nested ⟨headTree title settings extra, by simp, rfl⟩, String.append_assoc,
    ← Text.document_eq_unlines (by simp),
    show "<!DOCTYPE html>\n" = "<!DOCTYPE html>" ++ "\n" from rfl, ← Text.document_cons]
  simp only [writeNodes, List.append_nil]
  rw [writeNode_nested ⟨el tag attrs blocks, by simp, rfl⟩]
  simp only [writeNodes, List.append_nil]
  rw [writeNode_nested h, writeNodes_eq_flatten]
  simp only [PageFrame.fill, pageFrame, openingLine, closingLine, List.append_assoc,
    List.cons_append, List.nil_append]

/-! ### The lines of a block -/

/-- The lines of a section, at the depth that it has in a page. -/
def sectionLines (settings : ExportSettings) (s : PageSection) : List String :=
  writeNode .html 3 (Plain.render .script settings s)

/-- The lines of a section up to its data. -/
def propsLines (settings : ExportSettings) (position : Nat) (props : Block.Props) : List String :=
  let (className, nodes) := Plain.content .script position settings props
  (Text.indent 3 ++ "<" ++ Dialect.html.opening "section" [classAttr className] ++ ">") ::
    writeNodes .html 4 nodes

/-- The lines of the panel of some data. -/
def panelLines (settings : ExportSettings) (data : Option Value) : List String :=
  writeNodes .html 4 (data.map (Plain.dataPanel settings)).toList

/-- The lines of every block in the preview. -/
def previewLines (canvas : Canvas) (sources : List DataSource) (live : Option LiveCache)
    (settings : ExportSettings) : List (List String) :=
  (previewSections canvas sources live).map (sectionLines settings)

/-- The lines of every block in the static export. -/
def indexLines (canvas : Canvas) (sources : List DataSource) (settings : ExportSettings) :
    List (List String) :=
  (canvas.sections sources).map (sectionLines settings)

theorem isText_render (mode : Plain.TabMode) (settings : ExportSettings) (s : PageSection) :
    (Plain.render mode settings s).isText = false := by
  unfold Plain.render
  split <;> rfl

theorem exists_nested_content (mode : Plain.TabMode) (position : Nat) (settings : ExportSettings)
    (props : Block.Props) :
    ∃ node ∈ (Plain.content mode position settings props).2, node.isText = false := by
  cases props <;> exact ⟨_, List.mem_cons_self .., rfl⟩

theorem sectionLines_of_props (settings : ExportSettings) (position : Nat) (blockId : String)
    (props : Block.Props) (data : Option Value) :
    sectionLines settings ⟨position, blockId, some props, data⟩ =
      propsLines settings position props ++ panelLines settings data ++
        [Text.indent 3 ++ "</section>"] := by
  have nested : ∃ node ∈ (Plain.content .script position settings props).2 ++
      (data.map (Plain.dataPanel settings)).toList, node.isText = false := by
    obtain ⟨node, hn, h⟩ := exists_nested_content .script position settings props
    exact ⟨node, List.mem_append_left _ hn, h⟩
  simp only [sectionLines, Plain.render]
  rw [writeNode_nested nested, writeNodes_append]
  simp [propsLines, panelLines, String.append_assoc]

theorem getElem?_previewLines (canvas : Canvas) (sources : List DataSource)
    (live : Option LiveCache) (settings : ExportSettings) (i : Nat) :
    (previewLines canvas sources live settings)[i]? = canvas.blocks[i]?.map fun block =>
      sectionLines settings (previewSection sources live i block) := by
  simp [previewLines, previewSections, PageSection.getElem?_number, Function.comp_def]

theorem getElem?_indexLines (canvas : Canvas) (sources : List DataSource)
    (settings : ExportSettings) (i : Nat) :
    (indexLines canvas sources settings)[i]? = canvas.blocks[i]?.map fun block =>
      sectionLines settings (.ofBlock sources i block) := by
  simp [indexLines, Canvas.sections, PageSection.getElem?_number, Function.comp_def]

section Positions

variable {sources : List DataSource} {block : PlacedBlock} {kind : Block.Kind}

theorem sectionLines_preview_of_kind (sources : List DataSource)
    (known : block.kind? = some kind) (settings : ExportSettings) (position : Nat) :
    ∃ mapped, Binding.blockProps? sources none block = some mapped ∧ mapped.kind = kind ∧
      sectionLines settings (previewSection sources none position block) =
        propsLines settings position mapped ++ panelLines settings (block.pinned? sources) ++
          [Text.indent 3 ++ "</section>"] := by
  obtain ⟨mapped, held, kept⟩ :
      ∃ mapped, Binding.blockProps? sources none block = some mapped ∧ mapped.kind = kind := by
    simp only [Binding.blockProps?, known, Option.map_some, Option.some.injEq, exists_eq_left']
    split <;> exact Block.Props.kind_repair ..
  refine ⟨mapped, held, kept, ?_⟩
  rw [previewSection, held, Binding.blockData?_of_kind known, sectionLines_of_props]

theorem sectionLines_export_of_kind (sources : List DataSource)
    (known : block.kind? = some kind) (settings : ExportSettings) (position : Nat) :
    ∃ plain, block.props? = some plain ∧ plain.kind = kind ∧
      sectionLines settings (.ofBlock sources position block) =
        propsLines settings position plain ++ panelLines settings (block.pinned? sources) ++
          [Text.indent 3 ++ "</section>"] := by
  have held : block.props? = some (Block.Props.repair kind block.props) := by
    simp [PlacedBlock.props?, known]
  refine ⟨_, held, Block.Props.kind_repair .., ?_⟩
  rw [PageSection.ofBlock, held, sectionLines_of_props]
  rfl

theorem sectionLines_preview_of_unmapped (h : block.Unmapped sources) (settings : ExportSettings)
    (position : Nat) :
    sectionLines settings (previewSection sources none position block) =
      sectionLines settings (.ofBlock sources position block) := by
  cases known : block.kind? with
  | none =>
    -- An export keeps the data of such a block, but shows none of it.
    simp [sectionLines, Plain.render, previewSection, PageSection.ofBlock, Binding.blockProps?,
      PlacedBlock.props?, known]
  | some kind =>
    rw [previewSection, Binding.blockProps?_of_unmapped h, Binding.blockData?_of_kind known]
    rfl

end Positions

/-! ### Pages -/

def previewFrame (name : String) (settings : ExportSettings) : PageFrame :=
  pageFrame name settings [el "style" [] [.raw Assets.stylesheet]] "main" [classAttr "container"]
    (el "script" [] [.raw Assets.tabScript])

def indexFrame (name : String) (settings : ExportSettings) : PageFrame :=
  pageFrame name settings
    [el "link" [fixedAttr "rel" "stylesheet", fixedAttr "href" "styles.css"] []]
    "div" [classAttr "container"] (el "script" [fixedAttr "src" "script.js"] [])

section Fills

variable {canvas : Canvas} (given : canvas.blocks ≠ []) (name : String)
  (sources : List DataSource) (settings : ExportSettings)

include given

theorem exists_nested_sections (make : Nat → PlacedBlock → PageSection) :
    ∃ node ∈ (PageSection.number make 0 canvas.blocks).map (Plain.render .script settings),
      node.isText = false := by
  obtain ⟨s, hs⟩ := List.exists_mem_of_ne_nil _ (PageSection.number_ne_nil given)
  exact ⟨_, List.mem_map_of_mem hs, isText_render ..⟩

theorem previewPage_eq_fill (live : Option LiveCache) :
    previewPage canvas name sources live settings =
      (previewFrame name settings).fill (previewLines canvas sources live settings) := by
  refine (pageText_eq_fill _ _ _ _ _ _ (exists_nested_sections given settings _)).trans ?_
  rw [List.map_map]
  rfl

theorem indexPage_eq_fill :
    indexPage (canvas.sections sources) name settings =
      (indexFrame name settings).fill (indexLines canvas sources settings) := by
  refine (pageText_eq_fill _ _ _ _ _ _ (exists_nested_sections given settings _)).trans ?_
  rw [List.map_map]
  rfl

end Fills

/-- The preview and the static export of a canvas have a frame each, which neither the canvas
nor its data shows in. In both a block of a known kind has the lines of its props, and behind
them those of its data; they are the same lines where no mapping finds a value. -/
theorem preview_agrees (name : String) (settings : ExportSettings) :
    ∃ preview index : PageFrame, ∀ (canvas : Canvas) (sources : List DataSource),
      (canvas.blocks ≠ [] →
        previewPage canvas name sources none settings =
            preview.fill (previewLines canvas sources none settings) ∧
          (generate .html canvas name sources settings).file? "index.html" =
            some ⟨"index.html", index.fill (indexLines canvas sources settings)⟩) ∧
      ∀ i block, canvas.blocks[i]? = some block →
        ∃ shown exported, (previewLines canvas sources none settings)[i]? = some shown ∧
          (indexLines canvas sources settings)[i]? = some exported ∧
          (block.Unmapped sources → shown = exported) ∧
          ∀ kind, block.kind? = some kind →
            ∃ mapped plain : Block.Props,
              Binding.blockProps? sources none block = some mapped ∧ mapped.kind = kind ∧
              block.props? = some plain ∧ plain.kind = kind ∧
              shown = propsLines settings i mapped ++
                panelLines settings (block.pinned? sources) ++ [Text.indent 3 ++ "</section>"] ∧
              exported = propsLines settings i plain ++
                panelLines settings (block.pinned? sources) ++
                [Text.indent 3 ++ "</section>"] := by
  refine ⟨previewFrame name settings, indexFrame name settings, fun canvas sources =>
    ⟨fun given => ⟨previewPage_eq_fill given .., ?_⟩, fun i block placed => ?_⟩⟩
  · exact congrArg (fun content => some (ExportFile.mk "index.html" content))
      (indexPage_eq_fill given name sources settings)
  · refine ⟨_, _, by rw [getElem?_previewLines, placed, Option.map_some],
      by rw [getElem?_indexLines, placed, Option.map_some],
      fun lost => sectionLines_preview_of_unmapped lost settings i, fun kind known => ?_⟩
    obtain ⟨mapped, mappedIs, mappedKind, shown⟩ :=
      sectionLines_preview_of_kind sources known settings i
    obtain ⟨plain, plainIs, plainKind, exported⟩ :=
      sectionLines_export_of_kind sources known settings i
    exact ⟨mapped, plain, mappedIs, mappedKind, plainIs, plainKind, shown, exported⟩

/-- A hero without a binding, one whose mapping leads nowhere and one whose mapping finds a
title; and a block of an unknown kind whose mapping would find it too. -/
theorem preview_agrees_heroes :
    let source : DataSource := ⟨"feed", "Feed", .mock, none, none, none, none, .null,
      [⟨"first", "First", .object [("name", .string "Hi")]⟩]⟩
    let link (path : String) : DataBinding := ⟨"feed", some "first", some [⟨path, "title"⟩]⟩
    let unbound : PlacedBlock := ⟨"block-1", "hero", .null, none, none⟩
    let lost : PlacedBlock := ⟨"block-2", "hero", .null, none, some (link "names")⟩
    let found : PlacedBlock := ⟨"block-3", "hero", .null, none, some (link "name")⟩
    let unknown : PlacedBlock := ⟨"block-4", "map", .null, none, some (link "name")⟩
    let canvas : Canvas := ⟨[unbound, lost, found, unknown], none⟩
    canvas.blocks ≠ [] ∧ unbound.Unmapped [source] ∧ lost.Unmapped [source] ∧
      ¬ found.Unmapped [source] ∧ found.kind? = some .hero ∧
      Binding.blockProps? [source] none found ≠ found.props? ∧
      ∃ preview index : PageFrame,
        previewPage canvas "Site" [source] none {} =
            preview.fill (previewLines canvas [source] none {}) ∧
          (generate .html canvas "Site" [source] {}).file? "index.html" =
            some ⟨"index.html", index.fill (indexLines canvas [source] {})⟩ ∧
          (previewLines canvas [source] none {})[0]? = (indexLines canvas [source] {})[0]? ∧
          (previewLines canvas [source] none {})[1]? = (indexLines canvas [source] {})[1]? ∧
          ∃ mapped, mapped.kind = .hero ∧
            (previewLines canvas [source] none {})[2]? = some (propsLines {} 2 mapped ++
              panelLines {} (some (.object [("name", .string "Hi")])) ++
              [Text.indent 3 ++ "</section>"]) := by
  intro source link unbound lost found unknown canvas
  have some : canvas.blocks ≠ [] := List.cons_ne_nil _ _
  have unboundIs : unbound.Unmapped [source] := by
    intro bound h
    cases h
  have lostIs : lost.Unmapped [source] := by
    rintro _ ⟨⟩ _ ⟨⟩ m hm
    obtain rfl := List.mem_singleton.mp hm
    decide
  have foundIsNot : ¬ found.Unmapped [source] := fun h =>
    absurd (h _ rfl _ rfl _ (List.mem_singleton_self _)) (by decide)
  obtain ⟨preview, index, agree⟩ := preview_agrees "Site" {}
  obtain ⟨pages, blocks⟩ := agree canvas [source]
  obtain ⟨_, _, shown₀, exported₀, same₀, -⟩ := blocks 0 unbound rfl
  obtain ⟨_, _, shown₁, exported₁, same₁, -⟩ := blocks 1 lost rfl
  obtain ⟨_, _, shown₂, -, -, kinds⟩ := blocks 2 found rfl
  obtain ⟨mapped, -, -, kept, -, -, lines, -⟩ := kinds .hero (by decide)
  refine ⟨some, unboundIs, lostIs, foundIsNot, by decide, by decide, preview, index,
    (pages some).1, (pages some).2, ?_, ?_, mapped, kept, ?_⟩
  · rw [shown₀, exported₀, same₀ unboundIs]
  · rw [shown₁, exported₁, same₁ lostIs]
  · rw [shown₂, lines]
    rfl

end Export

end PageBuilder

import PageBuilder.Proofs.Export.Agreement
import PageBuilder.Proofs.Export.ComponentNames
import PageBuilder.Proofs.Export.Elements
/-! What shows in an export of a block that is put in the place of another. The sections of
the other blocks stay as they are, and with them their components and their parts of the page. -/
namespace PageBuilder

open Markup

/-- The canvas with another block at a position. -/
def Canvas.replace (canvas : Canvas) (i : Nat) (block : PlacedBlock) : Canvas :=
  { canvas with blocks := canvas.blocks.set i block }

namespace Canvas

variable {canvas : Canvas} {i j : Nat} {block : PlacedBlock}

theorem length_blocks_replace : (canvas.replace i block).blocks.length = canvas.blocks.length :=
  List.length_set

theorem getElem?_blocks_replace (h : j ≠ i) :
    (canvas.replace i block).blocks[j]? = canvas.blocks[j]? :=
  List.getElem?_set_ne h.symm

theorem length_sections (canvas : Canvas) (sources : List DataSource) :
    (canvas.sections sources).length = canvas.blocks.length :=
  PageSection.length_number 0 canvas.blocks

end Canvas

namespace Export

/-! ### Components -/

theorem length_files (format : ExportFormat) (canvas : Canvas) (name : String)
    (sources : List DataSource) (settings : ExportSettings) :
    (generate format canvas name sources settings).files.length =
      (layoutOf format).front.length + (componentsOf format (canvas.sections sources)).length +
        (layoutOf format).back.length := by
  have paths := congrArg List.length
    (map_path_filesFor format (canvas.sections sources) name settings)
  simpa [generate, Layout.paths, Nat.add_assoc] using paths

/-- The file of a component is made from its section alone. -/
theorem exists_component_files {format : ExportFormat} (project : format ≠ .html)
    (settings : ExportSettings) :
    ∃ source : PageSection → String, ∀ (name : String) (sections : List PageSection),
      ∀ s ∈ sections, ⟨componentPath s, source s⟩ ∈ filesFor format sections name settings := by
  cases format with
  | html => exact absurd rfl project
  | react =>
    exact ⟨React.component settings, fun name _ _ hs => React.component_mem_files hs name settings⟩
  | nextjs =>
    exact ⟨Next.component settings, fun name _ _ hs => Next.component_mem_files hs name settings⟩

/-! ### Parts of the page -/

/-- The tags in the lines are those of one section with none inside. -/
def IsOneSection (lines : List String) : Prop :=
  ∃ inner, tagsIn (Text.unlines lines) =
      .opening "section" :: (inner ++ [.closing "section"]) ∧
    WellNested inner ∧ .opening "section" ∉ inner

theorem isName_innerTags : ∀ tag ∈ Plain.innerTags, isName tag = true := by
  decide

theorem exists_tags_render (settings : ExportSettings) (s : PageSection) :
    (Plain.render .script settings s).isProper = true ∧
      ∃ inner, (Plain.render .script settings s).tags =
          .opening "section" :: (inner ++ [.closing "section"]) ∧
        WellNested inner ∧ .opening "section" ∉ inner := by
  obtain ⟨attrs, children, shown, named, made⟩ := Plain.exists_render_eq .script settings s
  rw [shown]
  have proper := Node.allProper_of_allMadeOf isName_innerTags children made
  refine ⟨?_, Node.tagsAll children, ?_, (Node.balanced_tagsAll children).wellNested, ?_⟩
  · simp [el, Node.isProper, named, proper, voidTags, isName, isNameChar]
  · simp [el, Node.tags, voidTags]
  · exact Node.opening_notMem_tagsAll isName_innerTags made (by decide)

theorem isOneSection_sectionLines (settings : ExportSettings) (s : PageSection) :
    IsOneSection (sectionLines settings s) := by
  obtain ⟨proper, inner, tags, nested, single⟩ := exists_tags_render settings s
  refine ⟨inner, ?_, nested, single⟩
  rw [← tags]
  exact (reads_writeNode 3 _ proper).unlines.readTags_cutComments

theorem count_tagsAll_sections (settings : ExportSettings) (sections : List PageSection) :
    (Node.tagsAll (sections.map (Plain.render .script settings))).count (.opening "section") =
      sections.length := by
  induction sections with
  | nil => rfl
  | cons s rest ih =>
    obtain ⟨-, inner, tags, -, single⟩ := exists_tags_render settings s
    rw [List.map_cons, Node.tagsAll, List.count_append, ih, tags, List.length_cons]
    simp [List.count_eq_zero_of_not_mem single, Nat.add_comm]

theorem allProper_sections (settings : ExportSettings) (sections : List PageSection) :
    Node.allProper (sections.map (Plain.render .script settings)) = true := by
  induction sections with
  | nil => rfl
  | cons s rest ih =>
    rw [List.map_cons, Node.allProper, (exists_tags_render settings s).1, ih, Bool.and_self]

theorem reads_doctype : Reads "<!DOCTYPE html>\n".toList [.opening "!DOCTYPE"] :=
  fun _ => rfl

theorem tagsIn_pageText {root : Node} (proper : root.isProper = true) :
    tagsIn (pageText root) = .opening "!DOCTYPE" :: root.tags := by
  have only : Node.allProper [root] = true := by rw [Node.allProper, proper]; rfl
  have page := (reads_doctype.append (reads_writeNodes 0 [root] only).unlines).append
    (reads_of_not_mem (show '<' ∉ "\n".toList by decide))
  rw [← String.toList_append, ← String.toList_append] at page
  refine page.readTags_cutComments.trans ?_
  simp [Node.tagsAll]

theorem count_indexPage (sections : List PageSection) (name : String)
    (settings : ExportSettings) :
    (tagsIn (indexPage sections name settings)).count (.opening "section") =
      sections.length := by
  refine (congrArg (List.count _) (tagsIn_pageText ?_)).trans ?_
  · simp [indexTree, pageTree, headTree, el, label, Node.allProper, Node.isProper,
      allProper_sections, voidTags, isName, isNameChar]
  · simp [indexTree, pageTree, headTree, el, label, Node.tags, Node.tagsAll, voidTags,
      count_tagsAll_sections]

/-! ### The other blocks -/

theorem exists_component_kept {format : ExportFormat} (project : format ≠ .html)
    {canvas other : Canvas} {j : Nat} {kept : PlacedBlock} (placed : canvas.blocks[j]? = some kept)
    (placed' : other.blocks[j]? = some kept) (name : String) (sources : List DataSource)
    (settings : ExportSettings) :
    ∃ f, f.path = componentFile (pascalCase kept.blockId ++ "Block" ++ toString (j + 1)) ∧
      (generate format canvas name sources settings).file? f.path = some f ∧
      (generate format other name sources settings).file? f.path = some f := by
  obtain ⟨source, files⟩ := exists_component_files project settings
  let s := PageSection.ofBlock sources j kept
  refine ⟨⟨componentPath s, source s⟩, rfl, ?_, ?_⟩
  · exact file?_of_mem (nodup_paths_generate ..)
      (files name _ s (List.mem_of_getElem? (Canvas.getElem?_sections placed sources)))
  · exact file?_of_mem (nodup_paths_generate ..)
      (files name _ s (List.mem_of_getElem? (Canvas.getElem?_sections placed' sources)))

/-- The page has one section for each block, in their order. -/
theorem exists_index_page {canvas : Canvas} (given : canvas.blocks ≠ []) (name : String)
    (sources : List DataSource) (settings : ExportSettings) :
    ∃ page, (generate .html canvas name sources settings).file? "index.html" = some page ∧
      page.content = (indexFrame name settings).fill (indexLines canvas sources settings) ∧
      (indexLines canvas sources settings).length = canvas.blocks.length ∧
      (∀ lines ∈ indexLines canvas sources settings, IsOneSection lines) ∧
      (tagsIn page.content).count (.opening "section") = canvas.blocks.length := by
  refine ⟨_, rfl, indexPage_eq_fill given name sources settings, ?_, ?_, ?_⟩
  · rw [indexLines, List.length_map, canvas.length_sections]
  · exact List.forall_mem_map.mpr fun s _ => isOneSection_sectionLines settings s
  · exact (count_indexPage _ name settings).trans (canvas.length_sections sources)

/-- A block can be replaced by any other. A project keeps the number of its files, and for
every other position the path and the content of its component. The page keeps the lines of
every other position, and both pages have one section for each block in their order. -/
theorem generate_replace (name : String) (settings : ExportSettings) :
    ∃ frame : PageFrame, ∀ (canvas : Canvas) (sources : List DataSource) (i : Nat)
      (block : PlacedBlock), i < canvas.blocks.length →
      let other := canvas.replace i block
      (∀ format : ExportFormat, format ≠ .html →
        let result := generate format canvas name sources settings
        let changed := generate format other name sources settings
        changed.files.length = result.files.length ∧
          ∀ j kept, j ≠ i → canvas.blocks[j]? = some kept →
            ∃ f, f.path = componentFile (pascalCase kept.blockId ++ "Block" ++ toString (j + 1)) ∧
              result.file? f.path = some f ∧ changed.file? f.path = some f) ∧
      (∀ shown ∈ [canvas, other],
        ∃ page, (generate .html shown name sources settings).file? "index.html" = some page ∧
          page.content = frame.fill (indexLines shown sources settings) ∧
          (indexLines shown sources settings).length = canvas.blocks.length ∧
          (∀ lines ∈ indexLines shown sources settings, IsOneSection lines) ∧
          (tagsIn page.content).count (.opening "section") = canvas.blocks.length) ∧
      ∀ j, j ≠ i →
        (indexLines other sources settings)[j]? = (indexLines canvas sources settings)[j]? := by
  refine ⟨indexFrame name settings, fun canvas sources i block inside => ?_⟩
  intro other
  have size : other.blocks.length = canvas.blocks.length := Canvas.length_blocks_replace
  refine ⟨fun format project => ⟨?_, fun j kept elsewhere placed => ?_⟩, ?_,
    fun j elsewhere => ?_⟩
  · rw [length_files, length_files, componentsOf_project project, componentsOf_project project,
      List.length_map, List.length_map, Canvas.length_sections, Canvas.length_sections, size]
  · have placed' : other.blocks[j]? = some kept := by
      rw [Canvas.getElem?_blocks_replace elsewhere, placed]
    exact exists_component_kept project placed placed' name sources settings
  · intro shown held
    have given : shown.blocks.length = canvas.blocks.length := by
      rcases List.mem_pair.mp held with rfl | rfl
      · rfl
      · exact size
    have some : shown.blocks ≠ [] := List.ne_nil_of_length_pos (by omega)
    exact given ▸ exists_index_page some name sources settings
  · rw [getElem?_indexLines, getElem?_indexLines, Canvas.getElem?_blocks_replace elsewhere]

/-- A hero that is replaced by a block of an unknown kind, whose props are no object and whose
binding leads nowhere. -/
theorem generate_replace_by_unknown :
    let hero : PlacedBlock := ⟨"block-1", "hero", .null, none, none⟩
    let cta : PlacedBlock := ⟨"block-2", "cta", .null, none, none⟩
    let unknown : PlacedBlock := ⟨"block-3", "map", .string "hero", none, some ⟨"feed", none, none⟩⟩
    let canvas : Canvas := ⟨[hero, cta], none⟩
    let other := canvas.replace 0 unknown
    0 < canvas.blocks.length ∧ ExportFormat.react ≠ .html ∧ canvas.blocks[1]? = some cta ∧
      (∃ f, f.path = "src/components/CtaBlock2.tsx" ∧
        (generate .react canvas "Site" [] {}).file? f.path = some f ∧
        (generate .react other "Site" [] {}).file? f.path = some f) ∧
      (indexLines other [] {})[1]? = (indexLines canvas [] {})[1]? ∧
      ∃ page, (generate .html other "Site" [] {}).file? "index.html" = some page ∧
        (tagsIn page.content).count (.opening "section") = 2 := by
  intro hero cta unknown canvas other
  have project : ExportFormat.react ≠ .html := by decide
  have elsewhere : 1 ≠ 0 := by decide
  have second : other ∈ [canvas, other] := List.mem_cons_of_mem _ List.mem_cons_self
  obtain ⟨frame, replaced⟩ := generate_replace "Site" {}
  obtain ⟨projects, pages, lines⟩ := replaced canvas [] 0 unknown (by decide)
  obtain ⟨f, path, kept, kept'⟩ := (projects .react project).2 1 cta elsewhere rfl
  obtain ⟨page, found, -, -, -, sections⟩ := pages other second
  exact ⟨by decide, project, rfl, ⟨f, path.trans (by decide), kept, kept'⟩, lines 1 elsewhere, page,
    found, sections⟩

end Export

end PageBuilder

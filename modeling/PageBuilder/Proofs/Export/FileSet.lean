import PageBuilder.Export.Archive
import PageBuilder.Proofs.Export.Sources
/-! The files of an export. Their paths are distinct, and a project has one file for each of
its components, which are just those that its root source imports and shows. -/
namespace PageBuilder.Export

/-! ### Paths -/

/-- The component whose file has the path. -/
def componentOf? (path : String) : Option String :=
  Text.wordBetween? "src/components/" ".tsx" path.toList

theorem componentOf?_componentFile {name : String} (h : Text.isWord name = true) :
    componentOf? (componentFile name) = some name :=
  Text.wordBetween?_append h "src/components/" (by decide)

/-- The paths of the other files, before and behind those of the components. -/
structure Layout where
  front : List String
  back : List String

namespace Layout

def paths (layout : Layout) (names : List String) : List String :=
  layout.front ++ names.map componentFile ++ layout.back

structure Sound (layout : Layout) : Prop where
  nodup : (layout.front ++ layout.back).Nodup
  componentOf? : ∀ path ∈ layout.front ++ layout.back, Export.componentOf? path = none

variable {layout : Layout} {names : List String}

theorem nodup_paths (h : layout.Sound) (words : ∀ n ∈ names, Text.isWord n = true)
    (distinct : names.Nodup) : (layout.paths names).Nodup := by
  have files : (names.map componentFile).Nodup := by
    refine List.Nodup.map_on (fun n hn m hm same => ?_) distinct
    have read := componentOf?_componentFile (words n hn)
    rw [same, componentOf?_componentFile (words m hm)] at read
    exact (Option.some.inj read).symm
  -- The other paths are no component's, so none of them is among these.
  have apart : (names.map componentFile).Disjoint (layout.front ++ layout.back) := by
    intro path hfile hfixed
    obtain ⟨n, hn, rfl⟩ := List.mem_map.mp hfile
    have none := h.componentOf? _ hfixed
    rw [componentOf?_componentFile (words n hn)] at none
    cases none
  have all : (names.map componentFile ++ (layout.front ++ layout.back)).Nodup :=
    files.append h.nodup apart
  refine (List.Perm.nodup_iff ?_).mpr all
  rw [paths, List.append_assoc]
  exact List.perm_append_comm_assoc ..

theorem filterMap_componentOf?_paths (h : layout.Sound)
    (words : ∀ n ∈ names, Text.isWord n = true) :
    (layout.paths names).filterMap componentOf? = names := by
  obtain ⟨front, back⟩ := List.forall_mem_append.mp h.componentOf?
  have files : names.filterMap (Export.componentOf? ∘ componentFile) = names.filterMap some :=
    List.filterMap_congr fun n hn => componentOf?_componentFile (words n hn)
  rw [paths, List.filterMap_append, List.filterMap_append, List.filterMap_eq_nil_iff.mpr front,
    List.filterMap_eq_nil_iff.mpr back, List.filterMap_map, files, List.filterMap_some]
  simp

end Layout

def layoutOf : ExportFormat → Layout
  | .html => ⟨["index.html", "styles.css", "script.js", "README.md"], []⟩
  | .react => ⟨["src/App.tsx", "src/index.tsx"], ["src/App.css", "public/index.html",
    "package.json", "tsconfig.json", ".gitignore", "README.md"]⟩
  | .nextjs => ⟨["src/app/page.tsx"], Kit.kit.map (fun m => (Next.kitFile m).path) ++ [
    "src/lib/utils.ts", "src/app/globals.css", "src/app/layout.tsx", "tailwind.config.ts",
    "postcss.config.mjs", "package.json", "next.config.js", "tsconfig.json", ".gitignore",
    "README.md"]⟩

theorem layoutOf_sound (format : ExportFormat) : (layoutOf format).Sound := by
  cases format <;> exact ⟨by decide, by decide⟩

theorem entryPoint_mem_layoutOf (format : ExportFormat) :
    format.entryPoint ∈ (layoutOf format).front := by
  cases format <;> decide

/-- The components that an export has files for. -/
def componentsOf (format : ExportFormat) (sections : List PageSection) : List String :=
  match format with
  | .html => []
  | .react | .nextjs => sections.map PageSection.componentName

theorem isWord_of_mem_componentsOf (format : ExportFormat) (sections : List PageSection) :
    ∀ n ∈ componentsOf format sections, Text.isWord n = true := by
  cases format with
  | html => exact fun n hn => absurd hn List.not_mem_nil
  | react | nextjs => exact PageSection.isWord_of_mem_componentNames sections

theorem nodup_componentsOf (format : ExportFormat) (canvas : Canvas)
    (sources : List DataSource) : (componentsOf format (canvas.sections sources)).Nodup := by
  cases format with
  | html => exact List.nodup_nil
  | react | nextjs => exact canvas.nodup_componentNames sources

theorem map_path_filesFor (format : ExportFormat) (sections : List PageSection) (name : String)
    (settings : ExportSettings) :
    (filesFor format sections name settings).map ExportFile.path =
      (layoutOf format).paths (componentsOf format sections) := by
  have components (make : PageSection → String) :
      (sections.map fun s => ExportFile.mk (componentPath s) (make s)).map ExportFile.path =
        (sections.map PageSection.componentName).map componentFile := by
    rw [List.map_map, List.map_map]
    rfl
  cases format with
  | html => rfl
  | react =>
    rw [filesFor, React.files, List.map_append, List.map_append,
      components (React.component settings)]
    rfl
  | nextjs =>
    rw [filesFor, Next.files, List.map_append, List.map_append, List.map_append,
      components (Next.component settings), List.append_assoc]
    rfl

theorem nodup_paths_generate (format : ExportFormat) (canvas : Canvas) (name : String)
    (sources : List DataSource) (settings : ExportSettings) :
    ((generate format canvas name sources settings).files.map ExportFile.path).Nodup := by
  rw [generate, map_path_filesFor]
  exact Layout.nodup_paths (layoutOf_sound format) (isWord_of_mem_componentsOf format _)
    (nodup_componentsOf format canvas sources)

/-! ### Archives -/

theorem firstDuplicate?_eq_none_iff {seen : List String} {files : List ExportFile} :
    firstDuplicate? seen files = none ↔
      (files.map ExportFile.path).Nodup ∧ ∀ f ∈ files, f.path ∉ seen := by
  induction files generalizing seen with
  | nil => simp [firstDuplicate?]
  | cons f rest ih =>
    rw [firstDuplicate?]
    split
    · simp [*]
    · rw [ih, List.map_cons, List.nodup_cons]
      simp only [List.mem_map, List.mem_cons, not_or]
      grind

theorem archive_eq_ok {files : List ExportFile} (h : (files.map ExportFile.path).Nodup) :
    archive files = .ok (files.map fun f => ⟨f.path, f.content⟩) := by
  have none : firstDuplicate? [] files = none :=
    firstDuplicate?_eq_none_iff.mpr ⟨h, fun f _ => List.not_mem_nil⟩
  rw [archive, none]

theorem file?_of_mem {result : ExportResult} (h : (result.files.map ExportFile.path).Nodup)
    {f : ExportFile} (hf : f ∈ result.files) : result.file? f.path = some f :=
  Assoc.find?_key_of_mem h hf

theorem React.component_mem_files {s : PageSection} {sections : List PageSection}
    (h : s ∈ sections) (name : String) (settings : ExportSettings) :
    ⟨componentPath s, component settings s⟩ ∈ files sections name settings :=
  List.mem_append_left _ (List.mem_append_right _ (List.mem_map_of_mem h))

theorem Next.component_mem_files {s : PageSection} {sections : List PageSection}
    (h : s ∈ sections) (name : String) (settings : ExportSettings) :
    ⟨componentPath s, component settings s⟩ ∈ files sections name settings :=
  List.mem_append_left _
    (List.mem_append_left _ (List.mem_append_right _ (List.mem_map_of_mem h)))

/-! ### Exports -/

section Project

variable {format : ExportFormat} (project : format ≠ .html) (sections : List PageSection)
  (name : String) (settings : ExportSettings)
include project

theorem componentsOf_project :
    componentsOf format sections = sections.map PageSection.componentName := by
  cases format with
  | html => exact absurd rfl project
  | react | nextjs => rfl

theorem exists_root_of_project :
    ∃ root ∈ filesFor format sections name settings, root.path = format.entryPoint ∧
      root.imports =
        (sections.map PageSection.componentName).map (fun n => (n, componentFile n)) ∧
      root.elements = sections.map PageSection.componentName := by
  have words := PageSection.isWord_of_mem_componentNames sections
  cases format with
  | html => exact absurd rfl project
  | react =>
    have placed : folderOf "src/App.tsx" = "src/" := by decide
    have content := React.app_eq_fill (sections.map PageSection.componentName)
    have silent := React.rootFrame_silent (sections.map PageSection.componentName).isEmpty
    exact ⟨_, List.mem_cons_self, rfl, RootFrame.imports_eq content silent placed words,
      RootFrame.elements_eq content silent words⟩
  | nextjs =>
    have placed : folderOf "src/app/page.tsx" = "src/app/" := by decide
    have content := Next.page_eq_fill (sections.map PageSection.componentName)
    have silent := Next.rootFrame_silent
    exact ⟨_, List.mem_cons_self, rfl, RootFrame.imports_eq content silent placed words,
      RootFrame.elements_eq content silent words⟩

theorem exists_component_of_project {s : PageSection} (hs : s ∈ sections) :
    ∃ f ∈ filesFor format sections name settings, f.path = componentFile s.componentName ∧
      f.default? = some s.componentName := by
  cases format with
  | html => exact absurd rfl project
  | react =>
    exact ⟨_, React.component_mem_files hs name settings, rfl,
      React.default?_component settings s _⟩
  | nextjs =>
    exact ⟨_, Next.component_mem_files hs name settings, rfl,
      Next.default?_component settings s _⟩

end Project

/-- The files of an export have distinct paths, so an archive can hold them, and one of them
is the entry point. In a project there is a component of its own for each block. The root
source imports just these and shows them in their order, each from a file that declares it. -/
theorem generate_file_set (format : ExportFormat) (canvas : Canvas) (name : String)
    (sources : List DataSource) (settings : ExportSettings) :
    let result := generate format canvas name sources settings
    let paths := result.files.map ExportFile.path
    let names := canvas.blocks.mapIdx fun i block =>
      pascalCase block.blockId ++ "Block" ++ toString (i + 1)
    paths.Nodup ∧ archive result.files = .ok (result.files.map fun f => ⟨f.path, f.content⟩) ∧
      paths.count format.entryPoint = 1 ∧
      (format ≠ .html → paths.filterMap componentOf? = names ∧ names.Nodup ∧
        ∃ root, result.file? format.entryPoint = some root ∧
          root.imports = names.map (fun n => (n, "src/components/" ++ n ++ ".tsx")) ∧
          root.elements = names ∧
          ∀ imported ∈ root.imports, ∃ f, result.file? imported.2 = some f ∧
            f.default? = some imported.1) := by
  intro result paths names
  have namesAre : (canvas.sections sources).map PageSection.componentName = names :=
    canvas.componentNames_eq_mapIdx sources
  let components := componentsOf format (canvas.sections sources)
  have pathsAre : paths = (layoutOf format).paths components :=
    map_path_filesFor format (canvas.sections sources) name settings
  have words : ∀ n ∈ components, Text.isWord n = true := isWord_of_mem_componentsOf format _
  have distinct : paths.Nodup := by
    rw [pathsAre]
    exact Layout.nodup_paths (layoutOf_sound format) words
      (nodup_componentsOf format canvas sources)
  have entry : format.entryPoint ∈ paths := by
    rw [pathsAre, Layout.paths, List.append_assoc]
    exact List.mem_append_left _ (entryPoint_mem_layoutOf format)
  refine ⟨distinct, archive_eq_ok distinct, List.count_eq_one_of_mem distinct entry,
    fun project => ⟨?_, namesAre ▸ canvas.nodup_componentNames sources, ?_⟩⟩
  · rw [pathsAre, Layout.filterMap_componentOf?_paths (layoutOf_sound format) words,
      show components = _ from componentsOf_project project _, namesAre]
  · obtain ⟨root, held, path, imports, elements⟩ :=
      exists_root_of_project project (canvas.sections sources) name settings
    refine ⟨root, path ▸ file?_of_mem distinct held, namesAre ▸ imports, namesAre ▸ elements, ?_⟩
    rw [imports, List.map_map]
    refine List.forall_mem_map.mpr fun s hs => ?_
    obtain ⟨f, hf, filed, declared⟩ :=
      exists_component_of_project project (canvas.sections sources) name settings hs
    have found := file?_of_mem distinct hf
    rw [filed] at found
    exact ⟨f, found, declared⟩

/-- Ids that repeat, end like a name, hold no letter, or start with a digit. -/
theorem generate_file_set_odd_ids :
    let block (blockId : String) : PlacedBlock := ⟨"block", blockId, .null, none, none⟩
    let canvas : Canvas :=
      ⟨[block "hero", block "hero", block "hero-block-1", block "§", block "1x"], none⟩
    let result := generate .nextjs canvas "Site" [] {}
    let names := ["HeroBlock1", "HeroBlock2", "HeroBlock1Block3", "UnknownBlock4", "xBlock5"]
    ExportFormat.nextjs ≠ .html ∧
      (result.files.map ExportFile.path).filterMap componentOf? = names ∧
      ∃ root, result.file? "src/app/page.tsx" = some root ∧ root.elements = names ∧
        ∃ f, result.file? "src/components/HeroBlock1Block3.tsx" = some f ∧
          f.default? = some "HeroBlock1Block3" := by
  intro block canvas result names
  have project : ExportFormat.nextjs ≠ .html := by decide
  have namesAre : (canvas.blocks.mapIdx fun i block =>
      pascalCase block.blockId ++ "Block" ++ toString (i + 1)) = names := by decide
  have held := (generate_file_set .nextjs canvas "Site" [] {}).2.2.2 project
  rw [namesAre] at held
  obtain ⟨files, -, root, found, imports, elements, declared⟩ := held
  refine ⟨project, files, root, found, elements, ?_⟩
  refine declared ("HeroBlock1Block3", "src/components/HeroBlock1Block3.tsx") ?_
  rw [imports]
  decide

end PageBuilder.Export

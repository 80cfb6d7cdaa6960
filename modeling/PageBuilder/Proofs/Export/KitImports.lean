import PageBuilder.Proofs.Export.ComponentNames
import PageBuilder.Proofs.Export.Elements
/-! What a component imports from the kit. The imports name just the parts of the kit that the
tree of the component uses, and the files of the kit export them. -/
namespace PageBuilder

open Export (all_intercalate)
open Text (dropWhile_ne_append isWord not_mem_of_isWord takeWhile_ne_append)

/-! ### Readers -/

/-- A text without the blanks around it. -/
def trimBlanks (text : List Char) : List Char :=
  (text.dropWhile (· = ' ')).rdropWhile (· = ' ')

/-- The names between commas. -/
def namesIn (clause : List Char) : List String :=
  (Text.pieces ',' clause).map fun piece => String.ofList (trimBlanks piece)

/-- The names in the braces behind `before` at the start of a text, and what is behind these. -/
def namesAfter? (before : String) (text : List Char) : Option (List String × List Char) := do
  let rest ← (before ++ "\x7b").toList.isPrefixOf? text
  let behind ← (rest.dropWhile (· ≠ '\x7d')).tail?
  return (namesIn (rest.takeWhile (· ≠ '\x7d')), behind)

/-- The names and the module of an import such as `import { A, B } from './C';`. -/
def namedImportOf? (line : String) : Option (List String × String) :=
  (namesAfter? "import " line.toList).bind fun read =>
    (moduleOf? read.2).map fun specifier => (read.1, specifier)

/-- The names that a line such as `export { A, B };` exports. -/
def exportsOf (line : String) : List String :=
  match namesAfter? "export " line.toList with
  | some (names, [';']) => names
  | _ => []

def ExportFile.exports (f : ExportFile) : List String :=
  (Text.lines f.content).flatMap exportsOf

section Names

variable {name : String} {names : List String}

theorem dropWhile_of_not_mem {text : List Char} (given : text ≠ []) (h : ' ' ∉ text)
    (rest : List Char) : (text ++ rest).dropWhile (· = ' ') = text ++ rest := by
  cases text with
  | nil => exact absurd rfl given
  | cons c text =>
    have other : c ≠ ' ' := fun same => h (same ▸ List.mem_cons_self)
    simp [other]

theorem trimBlanks_word (h : isWord name = true) {behind : List Char}
    (blank : ∀ c ∈ behind, c = ' ') :
    trimBlanks (' ' :: (name.toList ++ behind)) = name.toList := by
  have given : name.toList ≠ [] := by
    intro empty
    simp [isWord, empty] at h
  have free : ' ' ∉ name.toList := not_mem_of_isWord h (by decide)
  have ending : (name.toList ++ behind).rdropWhile (· = ' ') = name.toList := by
    have stop := dropWhile_of_not_mem (List.reverse_ne_nil_iff.mpr given)
      (mt List.mem_reverse.mp free) []
    rw [List.append_nil] at stop
    rw [List.rdropWhile, List.reverse_append, List.dropWhile_append_of_pos (by simpa using blank),
      stop, List.reverse_reverse]
  rw [trimBlanks, List.dropWhile_cons_of_pos rfl, dropWhile_of_not_mem given free, ending]

theorem namesIn_written (words : ∀ n ∈ names, isWord n = true) (given : names ≠ []) :
    namesIn (" " ++ ", ".intercalate names ++ " ").toList = names := by
  induction names with
  | nil => exact absurd rfl given
  | cons name rest ih =>
    obtain ⟨word, others⟩ := List.forall_mem_cons.mp words
    have comma : ',' ∉ name.toList := not_mem_of_isWord word (by decide)
    cases rest with
    | nil =>
      have single : ',' ∉ (" " ++ ", ".intercalate [name] ++ " ").toList := by simp [comma]
      have trimmed := trimBlanks_word word (show ∀ c ∈ [' '], c = ' ' by simp)
      rw [namesIn, Text.pieces_of_not_mem single]
      simp [trimmed]
    | cons next more =>
      have first : ',' ∉ ' ' :: name.toList := by simp [comma]
      have trimmed := trimBlanks_word word (show ∀ c ∈ [], c = ' ' by simp)
      have split : (" " ++ ", ".intercalate (name :: next :: more) ++ " ").toList =
          ' ' :: name.toList ++ ',' :: (" " ++ ", ".intercalate (next :: more) ++ " ").toList := by
        simp
      rw [namesIn] at ih ⊢
      rw [split, Text.pieces_append, Text.pieces_of_not_mem first, List.map_append,
        ih others (List.cons_ne_nil _ _)]
      rw [List.append_nil] at trimmed
      simp [trimmed]

theorem namesAfter?_append {clause : List Char} (h : '\x7d' ∉ clause) (before : String)
    (behind : List Char) :
    namesAfter? before ((before ++ "\x7b").toList ++ (clause ++ '\x7d' :: behind)) =
      some (namesIn clause, behind) := by
  have passed : (before ++ "\x7b").toList.isPrefixOf?
      ((before ++ "\x7b").toList ++ (clause ++ '\x7d' :: behind)) =
      some (clause ++ '\x7d' :: behind) := List.isPrefixOf?_eq_some_iff_append_eq.mpr rfl
  simp only [namesAfter?, passed, Option.bind_eq_bind, Option.bind_some, dropWhile_ne_append h,
    takeWhile_ne_append h, List.tail?_cons]
  rfl

theorem namesAfter?_written (words : ∀ n ∈ names, isWord n = true) (given : names ≠ [])
    (before : String) (behind : List Char) :
    namesAfter? before
        ((before ++ "\x7b " ++ ", ".intercalate names ++ " \x7d").toList ++ behind) =
      some (names, behind) := by
  have listed : (", ".intercalate names).toList.all (· ≠ '\x7d') = true :=
    all_intercalate (by decide) fun n hn => List.all_eq_true.mpr fun c hc =>
      decide_eq_true fun same => not_mem_of_isWord (words n hn) (by decide) (same ▸ hc)
  have brace : '\x7d' ∉ (" " ++ ", ".intercalate names ++ " ").toList := by
    intro held
    have inside : '\x7d' ∈ (", ".intercalate names).toList := by simpa using held
    exact of_decide_eq_true (List.all_eq_true.mp listed _ inside) rfl
  have read := namesAfter?_append brace before behind
  rw [namesIn_written words given] at read
  simpa using read

end Names

namespace Export

open Markup (Node)

/-! ### Files of the kit -/

namespace Kit

/-- The source of a module exports its components. -/
def KitModule.Sound (m : KitModule) : Prop :=
  ∀ c ∈ m.components, c ∈ (Next.kitFile m).exports

theorem sound_of_getLast? {m : KitModule} {written : List String} {line : String}
    (source : m.source = Text.document written) (last : written.getLast? = some line)
    (single : Text.isLine line = true) (exported : m.components.all (· ∈ exportsOf line) = true) :
    m.Sound := by
  intro c hc
  refine List.mem_flatMap.mpr ⟨line, ?_, of_decide_eq_true (List.all_eq_true.mp exported c hc)⟩
  have content : (Next.kitFile m).content = Text.document written := source
  rw [content]
  exact Text.mem_lines_document single (List.mem_of_getLast? last)

theorem sound_of_mem_kit : ∀ m ∈ kit, m.Sound := by
  simp only [kit, List.forall_mem_cons]
  refine ⟨?card, ?button, ?badge, ?tabs, ?separator, ?label, ?input, List.forall_mem_nil _⟩
  all_goals exact sound_of_getLast? rfl rfl (by decide) (by decide)

theorem exists_kit_file {m : KitModule} (h : m ∈ kitByName) (canvas : Canvas) (name : String)
    (sources : List DataSource) (settings : ExportSettings) :
    ∃ f, (generate .nextjs canvas name sources settings).file?
        ("src/components/ui/" ++ m.name ++ ".tsx") = some f ∧
      ∀ c ∈ m.components, c ∈ f.exports := by
  have written : m ∈ kit := by
    simp only [kitByName, kit, List.mem_cons] at h ⊢
    tauto
  have held : Next.kitFile m ∈ (generate .nextjs canvas name sources settings).files :=
    List.mem_append_left _ (List.mem_append_right _ (List.mem_map_of_mem written))
  exact ⟨_, file?_of_mem (nodup_paths_generate ..) held, sound_of_mem_kit m written⟩

/-! ### Imports -/

/-- The names that a reader finds in an import of a module, and where it finds them. -/
def importOf (tags : List String) (m : KitModule) : List String × String :=
  (usedOf tags m, "@/components/ui/" ++ m.name)

theorem isWord_of_mem_components : ∀ m ∈ kitByName, ∀ c ∈ m.components, isWord c = true := by
  decide

theorem namedImportOf?_importLine {m : KitModule} {names : List String}
    (words : ∀ n ∈ names, isWord n = true) (given : names ≠ [])
    (plain : '\'' ∉ ("@/components/ui/" ++ m.name).toList) :
    namedImportOf? (importLine m names) = some (names, "@/components/ui/" ++ m.name) := by
  have parted : (importLine m names).toList =
      ("import " ++ "\x7b " ++ ", ".intercalate names ++ " \x7d").toList ++
        (" from '" ++ ("@/components/ui/" ++ m.name) ++ "';").toList := by
    simp [importLine]
  have read := namesAfter?_written words given "import "
    (" from '" ++ ("@/components/ui/" ++ m.name) ++ "';").toList
  rw [← parted] at read
  simp only [namedImportOf?, read, Option.bind_some, moduleOf?_written plain, Option.map_some]

theorem map_namedImportOf?_imports (node : Node) :
    (imports node).map namedImportOf? = ((usedModules (node.walk.map Prod.fst)).map
      (importOf (node.walk.map Prod.fst))).map some := by
  have plain : ∀ m ∈ kitByName, '\'' ∉ ("@/components/ui/" ++ m.name).toList := by decide
  rw [imports_eq, List.map_map, List.map_map]
  refine List.map_congr_left fun m hm => ?_
  obtain ⟨listed, given⟩ := List.mem_filter.mp hm
  refine namedImportOf?_importLine (fun n hn => ?_) (of_decide_eq_true given) (plain m listed)
  exact isWord_of_mem_components m listed n (List.mem_of_mem_filter hn)

theorem flatMap_importOf (tags : List String) :
    ((usedModules tags).map (importOf tags)).flatMap Prod.fst =
      componentNames.filter (· ∈ tags) := by
  have skipped (modules : List KitModule) :
      (modules.filter fun m => usedOf tags m ≠ []).flatMap (usedOf tags) =
        modules.flatMap (usedOf tags) := by
    induction modules with
    | nil => rfl
    | cons m rest ih =>
      cases used : usedOf tags m with
      | nil => simpa [used] using ih
      | cons => simpa [used] using ih
  rw [List.flatMap_map, componentNames, List.filter_flatMap]
  exact skipped kitByName

theorem nodup_componentNames : componentNames.Nodup := by
  decide

theorem nodup_importOf (tags : List String) :
    (((usedModules tags).map (importOf tags)).map Prod.snd).Nodup := by
  have all : (kitByName.map fun m => "@/components/ui/" ++ m.name).Nodup := by decide
  rw [List.map_map]
  exact all.sublist (List.filter_sublist.map _)

/-- Only the kit has tags that start with a capital. -/
theorem mem_componentNames_of_capital {settings : ExportSettings} {s : PageSection} {tag : String}
    (h : tag ∈ (render settings s).walk.map Prod.fst)
    (capital : tag.toList.head?.any Char.isUpper = true) : tag ∈ componentNames := by
  have small : ∀ tag ∈ usedTags, tag.toList.head?.any Char.isUpper = true →
      tag ∈ componentNames := by decide
  obtain ⟨e, he, rfl⟩ := List.mem_map.mp h
  exact small e.1 (Node.mem_of_mem_walk _ (isMadeOf_render settings s) e he) capital

/-- A component's name ends in a number, and no name of the kit holds a digit. -/
theorem componentName_notMem_componentNames (s : PageSection) :
    s.componentName ∉ componentNames := by
  have letters : ∀ n ∈ componentNames, n.toList.all (fun c => !c.isDigit) = true := by decide
  obtain ⟨c, hc⟩ : ∃ c, c ∈ (toString (s.position + 1)).toList :=
    List.exists_mem_of_ne_nil _ (by simp)
  intro held
  have inName : c ∈ s.componentName.toList := by
    rw [s.toList_componentName]
    exact List.mem_append_right _ (List.mem_append_right _ hc)
  have none := List.all_eq_true.mp (letters _ held) c inName
  rw [Text.isDigit_of_mem_toString _ c hc] at none
  cases none

end Kit

theorem Next.exists_lines_component (settings : ExportSettings) (s : PageSection) :
    ∃ rest, Text.lines (component settings s) =
      "import React from 'react';" :: (Kit.imports (Kit.render settings s) ++ "" :: rest) := by
  let node := Kit.render settings s
  have content : component settings s = Text.document
      (["import React from 'react';"] ++ Kit.imports node ++ [""]) ++
      Text.document ["export default function " ++ s.componentName ++ "() \x7b", "  return (",
        Markup.render [node] .jsx 2, "  );", "\x7d"] := by
    rw [← Text.document_append]
    simp [component, node]
  rw [content, Text.lines_document_append]
  · exact ⟨_, by simp only [List.append_assoc, List.cons_append, List.nil_append]; rfl⟩
  · simp only [List.forall_mem_append]
    exact ⟨⟨by decide, Kit.isLine_of_mem_imports⟩, by decide⟩

theorem exists_component_lines {canvas : Canvas} {i : Nat} {block : PlacedBlock}
    (placed : canvas.blocks[i]? = some block) (name : String) (sources : List DataSource)
    (settings : ExportSettings) :
    let s := PageSection.ofBlock sources i block
    ∃ f rest, (generate .nextjs canvas name sources settings).file?
        (componentFile s.componentName) = some f ∧
      Text.lines f.content = "import React from 'react';" ::
        (Kit.imports (Kit.render settings s) ++ "" :: rest) := by
  intro s
  let result := generate .nextjs canvas name sources settings
  have shown := List.mem_of_getElem? (Canvas.getElem?_sections placed sources)
  have filed : ⟨componentPath s, Next.component settings s⟩ ∈ result.files :=
    Next.component_mem_files shown name settings
  have found : result.file? (componentFile s.componentName) =
      some ⟨componentPath s, Next.component settings s⟩ :=
    file?_of_mem (nodup_paths_generate ..) filed
  obtain ⟨rest, lines⟩ := Next.exists_lines_component settings s
  exact ⟨_, rest, found, lines⟩

/-- The component of a block starts with the imports of its tree. A reader finds each tag with
a capital in one of them, once, and nothing that is no tag of the tree; each is from another
module, whose file is in the export and exports what is imported. None of the names is that of
the component. -/
theorem component_imports (canvas : Canvas) (name : String) (sources : List DataSource)
    (settings : ExportSettings) {i : Nat} {block : PlacedBlock}
    (placed : canvas.blocks[i]? = some block) :
    let result := generate .nextjs canvas name sources settings
    let s := PageSection.ofBlock sources i block
    let tree := Kit.render settings s
    let tags := tree.walk.map Prod.fst
    ∃ read : List (List String × String),
      (Kit.imports tree).map namedImportOf? = read.map some ∧
      (∃ f rest, result.file? (componentFile s.componentName) = some f ∧
        Text.lines f.content =
          "import React from 'react';" :: (Kit.imports tree ++ "" :: rest)) ∧
      (∀ tag ∈ tags, tag.toList.head?.any Char.isUpper = true →
        (read.flatMap Prod.fst).count tag = 1) ∧
      (∀ imported ∈ read.flatMap Prod.fst, imported ∈ tags) ∧
      (read.map Prod.snd).Nodup ∧
      (∀ imported ∈ read, ∃ module f,
        modulePath? "src/components/" imported.2 =
          some ("src/components/ui/" ++ module ++ ".tsx") ∧
        result.file? ("src/components/ui/" ++ module ++ ".tsx") = some f ∧
        ∀ n ∈ imported.1, n ∈ f.exports) ∧
      s.componentName ∉ read.flatMap Prod.fst := by
  intro result s tree tags
  have names := Kit.flatMap_importOf tags
  refine ⟨(Kit.usedModules tags).map (Kit.importOf tags), Kit.map_namedImportOf?_imports tree,
    exists_component_lines placed name sources settings, fun tag used capital => ?_,
    fun imported held => ?_, Kit.nodup_importOf tags, List.forall_mem_map.mpr fun m hm => ?_,
    fun held => ?_⟩
  · rw [names]
    refine List.count_eq_one_of_mem (Kit.nodup_componentNames.filter _) (List.mem_filter.mpr ?_)
    exact ⟨Kit.mem_componentNames_of_capital used capital, decide_eq_true used⟩
  · rw [names] at held
    exact of_decide_eq_true (List.mem_filter.mp held).2
  · obtain ⟨f, found, exported⟩ :=
      Kit.exists_kit_file (List.mem_of_mem_filter hm) canvas name sources settings
    refine ⟨m.name, f, modulePath?_aliased "src/components/" "components/ui/" m.name, found, ?_⟩
    exact fun n hn => exported n (List.mem_of_mem_filter hn)
  · rw [names] at held
    exact Kit.componentName_notMem_componentNames s (List.mem_of_mem_filter held)

/-- A form with data. Its tree has tags of four modules inside plain ones. -/
theorem component_imports_form :
    let source : DataSource := ⟨"feed", "Feed", .mock, none, none, none, none, .null,
      [⟨"first", "First", .object [("name", .string "Hi")]⟩]⟩
    let block : PlacedBlock :=
      ⟨"block-1", "form", .null, none, some ⟨"feed", some "first", none⟩⟩
    let canvas : Canvas := ⟨[block], none⟩
    let tree := Kit.render {} (.ofBlock [source] 0 block)
    canvas.blocks[0]? = some block ∧
      ∃ read : List (List String × String), (Kit.imports tree).map namedImportOf? = read.map some ∧
        (read.flatMap Prod.fst).count "CardHeader" = 1 ∧ (read.map Prod.snd).Nodup ∧
        ∀ imported ∈ read, ∃ module f,
          (generate .nextjs canvas "Site" [source] {}).file?
            ("src/components/ui/" ++ module ++ ".tsx") = some f ∧
          ∀ n ∈ imported.1, n ∈ f.exports := by
  intro source block canvas tree
  obtain ⟨read, imports, -, once, -, distinct, files, -⟩ :=
    component_imports canvas "Site" [source] {} (show canvas.blocks[0]? = some block from rfl)
  refine ⟨rfl, read, imports, once "CardHeader" (by decide) (by decide), distinct,
    fun imported held => ?_⟩
  obtain ⟨module, f, -, found, exported⟩ := files imported held
  exact ⟨module, f, found, exported⟩

end Export

end PageBuilder

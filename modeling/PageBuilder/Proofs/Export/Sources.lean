import PageBuilder.Export.Generate
import PageBuilder.Proofs.Export.Sections
/-! What the sources of a project import, render and declare. Readers find it line by line in
the text of a file, and know nothing of how that was written. -/
namespace PageBuilder

open Text (dropWhile_ne_append isLine isLine_append isLine_of_isWord isWord not_mem_of_isWord
  takeWhile_ne_append wordAfter? wordAfter?_append wordAfter?_eq_none wordBetween?
  wordBetween?_append wordBetween?_eq_none)

/-! ### Readers -/

/-- The name and the module of an import such as `import App from './App';`. -/
def importOf? (line : String) : Option (String × String) := do
  let (name, rest) ← wordAfter? "import " line.toList
  let rest ← " from '".toList.isPrefixOf? rest
  let specifier := rest.takeWhile (· ≠ '\'')
  if rest.dropWhile (· ≠ '\'') = "';".toList then some (name, String.ofList specifier) else none

/-- The module of an import, as it stands behind what is imported: ` from './App';`. -/
def moduleOf? (text : List Char) : Option String := do
  let rest ← " from '".toList.isPrefixOf? text
  let specifier := rest.takeWhile (· ≠ '\'')
  if rest.dropWhile (· ≠ '\'') = "';".toList then some (String.ofList specifier) else none

/-- The name of an element that stands alone on its line, such as `<App />`. -/
def elementOf? (line : String) : Option String :=
  wordBetween? "<" " />" (line.toList.dropWhile (· = ' '))

/-- The name of a function that the line declares as the default of its module. -/
def defaultOf? (line : String) : Option String :=
  wordBetween? "export default function " "() \x7b" line.toList

/-- The file that a source in `folder` imports. Packages are no files of the project, and
`@` stands for the folder of its sources. -/
def modulePath? (folder specifier : String) : Option String :=
  let fileIn := fun folder rest => folder ++ String.ofList rest ++ ".tsx"
  (("./".toList.isPrefixOf? specifier.toList).map (fileIn folder)).or
    (("@/".toList.isPrefixOf? specifier.toList).map (fileIn "src/"))

def folderOf (path : String) : String :=
  String.ofList (path.toList.rdropWhile (· ≠ '/'))

/-- A name that comes from another file of the project, and the path of that file. -/
def fileImport? (folder line : String) : Option (String × String) := do
  let (name, specifier) ← importOf? line
  let path ← modulePath? folder specifier
  return (name, path)

namespace ExportFile

def imports (f : ExportFile) : List (String × String) :=
  (Text.lines f.content).filterMap (fileImport? (folderOf f.path))

def elements (f : ExportFile) : List String :=
  (Text.lines f.content).filterMap elementOf?

/-- The first default function of a source; more may stand in a comment. -/
def default? (f : ExportFile) : Option String :=
  (Text.lines f.content).findSome? defaultOf?

end ExportFile

/-! ### Single lines -/

section Lines

variable {name : String}

theorem moduleOf?_written {specifier : String} (plain : '\'' ∉ specifier.toList) :
    moduleOf? (" from '" ++ specifier ++ "';").toList = some specifier := by
  have behind : " from '".toList.isPrefixOf? (" from '" ++ specifier ++ "';").toList =
      some (specifier.toList ++ '\'' :: [';']) :=
    List.isPrefixOf?_eq_some_iff_append_eq.mpr (by simp)
  simp only [moduleOf?, behind, Option.bind_eq_bind, Option.bind_some,
    takeWhile_ne_append plain, dropWhile_ne_append plain, String.ofList_toList]
  rfl

theorem importOf?_eq (line : String) :
    importOf? line = (wordAfter? "import " line.toList).bind fun read =>
      (moduleOf? read.2).map fun specifier => (read.1, specifier) := by
  unfold importOf? moduleOf?
  cases wordAfter? "import " line.toList with
  | none => rfl
  | some read =>
    simp only [Option.bind_eq_bind, Option.bind_some, Option.map_bind]
    congr 1
    funext rest
    simp only [Function.comp_apply, apply_ite (Option.map _), Option.map_some, Option.map_none]

theorem importOf?_written (h : isWord name = true) {specifier : String}
    (plain : '\'' ∉ specifier.toList) :
    importOf? ("import " ++ name ++ " from '" ++ specifier ++ "';") = some (name, specifier) := by
  have chars : ("import " ++ name ++ " from '" ++ specifier ++ "';").toList = "import ".toList ++
      (name.toList ++ (" from '" ++ specifier ++ "';").toList) := by
    simp only [String.toList_append, List.append_assoc]
  have read := wordAfter?_append h "import " (" from '" ++ specifier ++ "';").toList (by simp)
  simp only [importOf?_eq, chars, read, Option.bind_some, moduleOf?_written plain,
    Option.map_some]

theorem modulePath?_below (folder place name : String) :
    modulePath? folder ("./" ++ place ++ name) = some (folder ++ place ++ name ++ ".tsx") := by
  have passed : "./".toList.isPrefixOf? ("./" ++ place ++ name).toList =
      some (place ++ name).toList :=
    List.isPrefixOf?_eq_some_iff_append_eq.mpr (by simp)
  simp only [modulePath?, passed, Option.map_some, Option.some_or, String.ofList_toList,
    ← String.append_assoc]

theorem modulePath?_aliased (folder place name : String) :
    modulePath? folder ("@/" ++ place ++ name) = some ("src/" ++ place ++ name ++ ".tsx") := by
  have other : "./".toList.isPrefixOf? ("@/" ++ place ++ name).toList = none := by
    simp only [String.toList_append]
    rfl
  have passed : "@/".toList.isPrefixOf? ("@/" ++ place ++ name).toList =
      some (place ++ name).toList :=
    List.isPrefixOf?_eq_some_iff_append_eq.mpr (by simp)
  simp only [modulePath?, other, passed, Option.map_none, Option.map_some, Option.none_or,
    String.ofList_toList, ← String.append_assoc]

theorem elementOf?_written (h : isWord name = true) (depth : Nat) :
    elementOf? (Text.indent depth ++ "<" ++ name ++ " />") = some name := by
  have bare : (Text.indent depth ++ "<" ++ name ++ " />").toList.dropWhile (· = ' ') =
      ("<" ++ name ++ " />").toList := by
    simp only [String.append_assoc]
    rw [String.toList_append, Text.indent, String.toList_ofList,
      List.dropWhile_append_of_pos (by simp), String.toList_append]
    rfl
  rw [elementOf?, bare, wordBetween?_append h "<" (by decide)]

theorem defaultOf?_written (h : isWord name = true) :
    defaultOf? ("export default function " ++ name ++ "() \x7b") = some name :=
  wordBetween?_append h "export default function " (by decide)

theorem elementOf?_import (name specifier : String) :
    elementOf? ("import " ++ name ++ " from '" ++ specifier ++ "';") = none := by
  have bare : ("import " ++ name ++ " from '" ++ specifier ++ "';").toList.dropWhile (· = ' ') =
      ("import " ++ name ++ " from '" ++ specifier ++ "';").toList := by
    simp
  rw [elementOf?, bare, wordBetween?_eq_none (by simp) (by simp)]

theorem importOf?_element (name : String) (depth : Nat) :
    importOf? (Text.indent depth ++ "<" ++ name ++ " />") = none := by
  rw [importOf?, wordAfter?_eq_none _ (by simp)]
  · rfl
  · cases depth with
    | zero => simp [Text.indent]
    | succ depth => simp [Text.indent, Nat.mul_add, List.replicate_succ]

end Lines

/-! ### Root sources -/

/-- The file of a component. -/
def componentFile (name : String) : String :=
  "src/components/" ++ name ++ ".tsx"

/-- A source that imports components from a folder and shows each on a line of its own; the
other lines do not depend on the components. -/
structure RootFrame where
  above : List String
  between : List String
  below : List String
  /-- The modules of the components start with it. -/
  place : String
  depth : Nat

namespace RootFrame

def importLine (frame : RootFrame) (name : String) : String :=
  "import " ++ name ++ " from '" ++ (frame.place ++ name) ++ "';"

def elementLine (frame : RootFrame) (name : String) : String :=
  Text.indent frame.depth ++ "<" ++ name ++ " />"

def fixedLines (frame : RootFrame) : List String :=
  frame.above ++ frame.between ++ frame.below

def fill (frame : RootFrame) (names : List String) : String :=
  Text.document (frame.above ++ names.map frame.importLine ++ frame.between ++
    names.map frame.elementLine ++ frame.below)

/-- The lines that do not depend on the components import and show none, and the place is
that of the components. -/
structure Silent (frame : RootFrame) (folder : String) : Prop where
  lines : ∀ line ∈ frame.fixedLines, isLine line = true
  imports : ∀ line ∈ frame.fixedLines, fileImport? folder line = none
  elements : ∀ line ∈ frame.fixedLines, elementOf? line = none
  place_isLine : isLine frame.place = true
  place_plain : '\'' ∉ frame.place.toList
  place : ∀ name, modulePath? folder (frame.place ++ name) = some (componentFile name)

theorem importLine_eq (frame : RootFrame) (name : String) :
    frame.importLine name = "import " ++ name ++ (" from '" ++ frame.place) ++ name ++ "';" := by
  simp only [importLine, String.append_assoc]

section Reading

variable {f : ExportFile} {frame : RootFrame} {folder : String} {names : List String}

theorem lines_fill (h : frame.Silent folder) (words : ∀ n ∈ names, isWord n = true) :
    Text.lines (frame.fill names) = frame.above ++ names.map frame.importLine ++ frame.between ++
      names.map frame.elementLine ++ frame.below := by
  have fixed := h.lines
  simp only [fixedLines, List.forall_mem_append] at fixed
  have imports : ∀ line ∈ names.map frame.importLine, isLine line = true :=
    List.forall_mem_map.mpr fun n hn => by
      simp only [importLine, isLine_append, isLine_of_isWord (words n hn), h.place_isLine]
      rfl
  have elements : ∀ line ∈ names.map frame.elementLine, isLine line = true :=
    List.forall_mem_map.mpr fun n hn => by
      have blank : isLine (Text.indent frame.depth) = true := by simp [isLine, Text.indent]
      simp only [elementLine, isLine_append, isLine_of_isWord (words n hn), blank]
      rfl
  refine Text.lines_document ?_
  simp only [List.forall_mem_append]
  exact ⟨⟨⟨⟨fixed.1.1, imports⟩, fixed.1.2⟩, elements⟩, fixed.2⟩

/-- A reader that passes the fixed lines reads those of the components. -/
theorem filterMap_fill {α : Type} {read : String → Option α} (h : frame.Silent folder)
    (words : ∀ n ∈ names, isWord n = true)
    (silent : ∀ line ∈ frame.fixedLines, read line = none) :
    (Text.lines (frame.fill names)).filterMap read =
      names.filterMap (read ∘ frame.importLine) ++ names.filterMap (read ∘ frame.elementLine) := by
  simp only [fixedLines, List.forall_mem_append] at silent
  simp only [lines_fill h words, List.filterMap_append, List.filterMap_map,
    List.filterMap_eq_nil_iff.mpr silent.1.1, List.filterMap_eq_nil_iff.mpr silent.1.2,
    List.filterMap_eq_nil_iff.mpr silent.2, List.nil_append, List.append_nil]

theorem imports_eq (content : f.content = frame.fill names) (h : frame.Silent folder)
    (placed : folderOf f.path = folder) (words : ∀ n ∈ names, isWord n = true) :
    f.imports = names.map fun n => (n, componentFile n) := by
  have imported : ∀ n ∈ names,
      (fileImport? folder ∘ frame.importLine) n = some (n, componentFile n) := by
    intro n hn
    have plain : '\'' ∉ (frame.place ++ n).toList := by
      rw [String.toList_append, List.mem_append, not_or]
      exact ⟨h.place_plain, not_mem_of_isWord (words n hn) (by decide)⟩
    have read := importOf?_written (words n hn) plain
    simp [fileImport?, importLine, read, h.place]
  have shown : ∀ n ∈ names, (fileImport? folder ∘ frame.elementLine) n = none := by
    intro n _
    simp [fileImport?, elementLine, importOf?_element]
  rw [ExportFile.imports, content, placed, filterMap_fill h words h.imports,
    List.filterMap_eq_nil_iff.mpr shown, List.append_nil, List.filterMap_congr imported,
    List.filterMap_eq_map']

theorem elements_eq (content : f.content = frame.fill names) (h : frame.Silent folder)
    (words : ∀ n ∈ names, isWord n = true) : f.elements = names := by
  have imported : ∀ n ∈ names, (elementOf? ∘ frame.importLine) n = none := by
    intro n _
    simp [importLine, elementOf?_import]
  have shown : ∀ n ∈ names, (elementOf? ∘ frame.elementLine) n = some n :=
    fun n hn => elementOf?_written (words n hn) frame.depth
  rw [ExportFile.elements, content, filterMap_fill h words h.elements,
    List.filterMap_eq_nil_iff.mpr imported, List.nil_append, List.filterMap_congr shown,
    List.filterMap_some]

end Reading

end RootFrame

namespace Export

/-- Without components the container is one line. -/
def React.rootFrame (empty : Bool) : RootFrame where
  above := ["import React from 'react';", "import './App.css';"]
  between := ["", "function App() \x7b", "  return (",
    if empty then "    <div className=\"container\" />" else "    <div className=\"container\">"]
  below := (if empty then [] else ["    </div>"]) ++ ["  );", "\x7d", "", "export default App;"]
  place := "./components/"
  depth := 3

theorem React.app_eq_fill (names : List String) :
    React.app names = (rootFrame names.isEmpty).fill names := by
  have imports : (rootFrame names.isEmpty).importLine = fun n =>
      "import " ++ n ++ " from './components/" ++ n ++ "';" := funext (RootFrame.importLine_eq _)
  have elements : (rootFrame names.isEmpty).elementLine = fun n => "      <" ++ n ++ " />" := rfl
  rw [RootFrame.fill, imports, elements]
  cases names with
  | nil => rfl
  | cons n rest => simp [app, container, rootFrame]

theorem React.rootFrame_silent (empty : Bool) : (rootFrame empty).Silent "src/" where
  lines := by cases empty <;> decide
  imports := by cases empty <;> decide
  elements := by cases empty <;> decide
  place_isLine := by cases empty <;> rfl
  place_plain := by cases empty <;> decide
  place := modulePath?_below "src/" "components/"

def Next.rootFrame : RootFrame where
  above := ["import React from 'react';"]
  between := ["", "export default function Home() \x7b", "  return (",
    "    <main className=\"min-h-screen bg-slate-900 p-8\">",
    "      <div className=\"mx-auto max-w-7xl space-y-6\">"]
  below := ["      </div>", "    </main>", "  );", "\x7d"]
  place := "@/components/"
  depth := 4

theorem Next.page_eq_fill (names : List String) : Next.page names = rootFrame.fill names := by
  have imports : rootFrame.importLine = fun n =>
      "import " ++ n ++ " from '@/components/" ++ n ++ "';" := funext (RootFrame.importLine_eq _)
  have elements : rootFrame.elementLine = fun n => "        <" ++ n ++ " />" := rfl
  rw [RootFrame.fill, imports, elements]
  simp [page, rootFrame]

theorem Next.rootFrame_silent : rootFrame.Silent "src/app/" where
  lines := by decide
  imports := by decide
  elements := by decide
  place_isLine := rfl
  place_plain := by decide
  place := modulePath?_aliased "src/app/" "components/"

/-! ### The sources of components -/

/-- Whatever stands behind it, the declaration is the first one if none is above it. -/
theorem default?_of_declared {f : ExportFile} {above : List String} {name rest : String}
    (content : f.content =
      Text.document (above ++ ["export default function " ++ name ++ "() \x7b"]) ++ rest)
    (word : isWord name = true) (lines : ∀ line ∈ above, isLine line = true)
    (silent : ∀ line ∈ above, defaultOf? line = none) : f.default? = some name := by
  have declaration : isLine ("export default function " ++ name ++ "() \x7b") = true := by
    simp only [isLine_append, isLine_of_isWord word]
    rfl
  have all := List.forall_mem_append.mpr ⟨lines, List.forall_mem_singleton.mpr declaration⟩
  rw [ExportFile.default?, content, Text.lines_document_append all, List.append_assoc,
    List.findSome?_append, List.findSome?_eq_none_iff.mpr silent]
  simp [defaultOf?_written word]

theorem all_intercalate {p : Char → Bool} {separator : String} (h : separator.toList.all p = true)
    {texts : List String} (all : ∀ text ∈ texts, text.toList.all p = true) :
    (separator.intercalate texts).toList.all p = true := by
  induction texts with
  | nil => rfl
  | cons text rest ih =>
    obtain ⟨first, others⟩ := List.forall_mem_cons.mp all
    cases rest with
    | nil => rwa [String.intercalate_singleton]
    | cons next more =>
      rw [String.intercalate_cons_cons, String.toList_append, String.toList_append,
        List.all_append, List.all_append, first, h, ih others]
      rfl

/-- The modules of the kit of which something is used. -/
def Kit.usedModules (tags : List String) : List Kit.KitModule :=
  Kit.kitByName.filter fun m => Kit.usedOf tags m ≠ []

theorem Kit.imports_eq (node : Markup.Node) :
    imports node = (usedModules (node.walk.map Prod.fst)).map fun m =>
      importLine m (usedOf (node.walk.map Prod.fst) m) := by
  generalize tagsAre : node.walk.map Prod.fst = tags
  simp only [imports, usedModules, tagsAre]
  induction kitByName with
  | nil => rfl
  | cons m rest ih =>
    cases used : usedOf tags m with
    | nil => simp [used, ih]
    | cons => simp [used, ih]

theorem Kit.exists_importLine {node : Markup.Node} {line : String} (h : line ∈ imports node) :
    ∃ m ∈ kitByName, ∃ names, (∀ c ∈ names, c ∈ m.components) ∧ line = importLine m names := by
  rw [imports_eq] at h
  obtain ⟨m, hm, rfl⟩ := List.mem_map.mp h
  exact ⟨m, List.mem_of_mem_filter hm, _, fun _ => List.mem_of_mem_filter, rfl⟩

theorem Kit.isLine_of_mem_imports {node : Markup.Node} :
    ∀ line ∈ imports node, isLine line = true := by
  have fixed : ∀ m ∈ kitByName, isLine m.name = true ∧ ∀ c ∈ m.components, isLine c = true := by
    decide
  intro line hline
  obtain ⟨m, hm, names, used, rfl⟩ := exists_importLine hline
  have listed : isLine (", ".intercalate names) = true :=
    all_intercalate rfl fun c hc => (fixed m hm).2 c (used c hc)
  simp only [importLine, isLine_append, listed, (fixed m hm).1]
  rfl

theorem Kit.defaultOf?_of_mem_imports {node : Markup.Node} :
    ∀ line ∈ imports node, defaultOf? line = none := by
  intro line hline
  obtain ⟨m, -, names, -, rfl⟩ := exists_importLine hline
  exact wordBetween?_eq_none (by simp [importLine]) (by simp)

theorem React.default?_component (settings : ExportSettings) (s : PageSection) (path : String) :
    (ExportFile.mk path (component settings s)).default? = some s.componentName := by
  have content : component settings s = Text.document
      (["import React from 'react';", ""] ++
        ["export default function " ++ s.componentName ++ "() \x7b"]) ++
      Text.document (stateLines s.props ++ [
        "  return (", Markup.render [Plain.render .state settings s] .jsx 2, "  );", "\x7d"]) := by
    rw [← Text.document_append]
    simp [component]
  exact default?_of_declared content s.isWord_componentName (by decide) (by decide)

theorem Next.default?_component (settings : ExportSettings) (s : PageSection) (path : String) :
    (ExportFile.mk path (component settings s)).default? = some s.componentName := by
  let node := Kit.render settings s
  have content : component settings s = Text.document
      (["import React from 'react';"] ++ Kit.imports node ++ [""] ++
        ["export default function " ++ s.componentName ++ "() \x7b"]) ++
      Text.document ["  return (", Markup.render [node] .jsx 2, "  );", "\x7d"] := by
    rw [← Text.document_append]
    simp [component, node]
  refine default?_of_declared content s.isWord_componentName ?_ ?_
  · simp only [List.forall_mem_append]
    exact ⟨⟨by decide, Kit.isLine_of_mem_imports⟩, by decide⟩
  · simp only [List.forall_mem_append]
    exact ⟨⟨by decide, Kit.defaultOf?_of_mem_imports⟩, by decide⟩

end Export

end PageBuilder

import PageBuilder.Export.Assets.Page
import PageBuilder.Export.PlainMarkup
import PageBuilder.Export.Readme
import PageBuilder.Markup.Writer
/-! The static export, and the page that previews a canvas. -/
namespace PageBuilder.Export

open Markup

/-- The head of a page, with `extra` at its end. -/
def headTree (title : String) (settings : ExportSettings) (extra : List Node) : Node :=
  el "head" [] ([
    el "meta" [fixedAttr "charset" "UTF-8"] [],
    el "meta" [fixedAttr "name" "viewport",
      fixedAttr "content" "width=device-width, initial-scale=1.0"] [],
    el "meta" [fixedAttr "name" "description", textAttr "content" (origin settings)] [],
    label "title" [] title] ++ extra)

def pageTree (title : String) (settings : ExportSettings) (extra : List Node) (body : Node) :
    Node :=
  el "html" [textAttr "lang" settings.htmlLang] [headTree title settings extra, body]

/-- The text of an HTML page. -/
def pageText (tree : Node) : String :=
  "<!DOCTYPE html>\n" ++ Markup.render [tree] .html 0 ++ "\n"

/-- A line feed in the name of the generator would end the banner's line. -/
def bannerName (name : String) : String :=
  String.ofList (name.toList.map fun c => if c = '\n' then ' ' else c)

def pageScript (settings : ExportSettings) : String :=
  "// " ++ bannerName settings.generatorName ++ " - generated code\n" ++
    "// Add your custom interactions below.\n\n" ++ Assets.tabScript

def indexTree (sections : List PageSection) (name : String) (settings : ExportSettings) : Node :=
  pageTree name settings
    [el "link" [fixedAttr "rel" "stylesheet", fixedAttr "href" "styles.css"] []]
    (el "body" [] [
      el "div" [classAttr "container"] (sections.map (Plain.render .script settings)),
      el "script" [fixedAttr "src" "script.js"] []])

def indexPage (sections : List PageSection) (name : String) (settings : ExportSettings) : String :=
  pageText (indexTree sections name settings)

def htmlFiles (sections : List PageSection) (name : String) (settings : ExportSettings) :
    List ExportFile := [
  ⟨"index.html", indexPage sections name settings⟩,
  ⟨"styles.css", Assets.stylesheet⟩,
  ⟨"script.js", pageScript settings⟩,
  ⟨"README.md", readme name .html settings⟩]

/-! ### Preview -/

/-- A block with the data it is bound to, and that data mapped onto its props. -/
def previewSection (sources : List DataSource) (live : Option LiveCache) (position : Nat)
    (block : PlacedBlock) : PageSection where
  position := position
  blockId := block.blockId
  props := Binding.blockProps? sources live block
  data := Binding.blockData? sources live block

def previewSections (canvas : Canvas) (sources : List DataSource) (live : Option LiveCache) :
    List PageSection :=
  PageSection.number (previewSection sources live) 0 canvas.blocks

/-- A page that needs no other file. -/
def previewTree (sections : List PageSection) (name : String) (settings : ExportSettings) : Node :=
  pageTree name settings [el "style" [] [.raw Assets.stylesheet]]
    (el "body" [] [
      el "main" [classAttr "container"] (sections.map (Plain.render .script settings)),
      el "script" [] [.raw Assets.tabScript]])

def previewPage (canvas : Canvas) (name : String) (sources : List DataSource)
    (live : Option LiveCache) (settings : ExportSettings) : String :=
  pageText (previewTree (previewSections canvas sources live) name settings)

end PageBuilder.Export

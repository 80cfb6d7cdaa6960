import PageBuilder.Export.Assets.Kit
import PageBuilder.Export.PlainMarkup
/-! Sections made of the components of the kit, and the imports that they need. -/
namespace PageBuilder.Export.Kit

open Block (Pitch Metric Stage FormTexts)
open Json (Value)
open Markup (Node el classAttr fixedAttr textAttr)
open Plain (emailId commentId unknownText)

def text (tag className text : String) : Node :=
  Markup.label tag [classAttr className] text

/-- The colours and spaces in which pitches differ. -/
structure PitchLook where
  card : String
  header : String
  badge : String
  description : String
  actions : String
  primary : String

def heroLook : PitchLook where
  card := "border-emerald-500/20 bg-slate-950/80"
  header := "gap-2"
  badge := "w-fit border border-emerald-500/40 bg-emerald-500/10 text-emerald-200"
  description := "max-w-2xl text-base text-slate-300"
  actions := "flex flex-wrap items-center gap-3"
  primary := "bg-emerald-500 text-slate-950 hover:bg-emerald-400"

def ctaLook : PitchLook where
  card := "border-blue-500/30 bg-slate-950/75"
  header := "space-y-2"
  badge := "w-fit border border-blue-400/40 bg-blue-500/10 text-blue-200"
  description := "text-base text-slate-300"
  actions := "flex items-center gap-3"
  primary := "bg-blue-500 text-white hover:bg-blue-400"

def pitch (look : PitchLook) (p : Pitch) : Node :=
  el "Card" [classAttr look.card] [
    el "CardHeader" [classAttr look.header] [
      text "Badge" look.badge p.badge,
      text "CardTitle" "text-2xl text-white" p.title,
      text "CardDescription" look.description p.description],
    el "CardContent" [classAttr look.actions] [
      text "Button" look.primary p.primaryLabel,
      Markup.label "Button"
        [fixedAttr "variant" "ghost", classAttr "text-slate-200 hover:text-white"]
        p.secondaryLabel]]

def metric (m : Metric) : Node :=
  el "Card" [classAttr "border-slate-800/60 bg-slate-950/75"] [
    el "CardHeader" [classAttr "space-y-1"] [
      text "CardDescription" "text-xs uppercase tracking-wide text-slate-400" m.label,
      text "CardTitle" "text-3xl text-white" m.value],
    text "CardContent" "text-sm text-slate-400" m.detail]

def trigger (s : Stage) : Node :=
  Markup.label "TabsTrigger" [textAttr "value" s.id] s.label

def stage (s : Stage) : Node :=
  el "TabsContent" [textAttr "value" s.id] [
    el "div" [classAttr "space-y-3 text-slate-300"] [
      text "h3" "text-xl font-semibold text-white" s.title,
      Markup.label "p" [] s.description,
      el "Separator" [classAttr "bg-slate-800/60"] [],
      el "div" [classAttr "flex flex-wrap gap-2"]
        (s.tags.map (text "Badge" "border border-slate-700 bg-slate-800/70 text-slate-200"))]]

/-- The stage that is shown first. -/
def initialStage (stages : List Stage) : String :=
  match stages with
  | [] => "stage-0"
  | s :: _ => s.id

def workflow (stages : List Stage) : Node :=
  el "Tabs" [textAttr "defaultValue" (initialStage stages), classAttr "w-full"]
    (el "TabsList" [] (stages.map trigger) :: stages.map stage)

def commentBox : String :=
  "min-h-[96px] w-full rounded-md border border-slate-800 bg-slate-950 px-3 py-2 text-sm text-white placeholder:text-slate-500 focus-visible:outline-none focus-visible:ring-2 focus-visible:ring-emerald-500/60"

def fieldLabel (id label : String) : Node :=
  Markup.label "Label" [textAttr "for" id, classAttr "text-slate-200"] label

def form (f : FormTexts) (position : Nat) (settings : ExportSettings) : Node :=
  el "Card" [classAttr "border-slate-800/60 bg-slate-950/80"] [
    el "CardHeader" [] [
      text "CardTitle" "text-white" f.title,
      text "CardDescription" "text-slate-400" f.description],
    el "CardContent" [classAttr "space-y-4"] [
      el "div" [classAttr "space-y-2"] [
        fieldLabel (emailId position) f.emailLabel,
        el "Input" [textAttr "id" (emailId position), fixedAttr "type" "email",
          textAttr "placeholder" settings.emailPlaceholder,
          classAttr "border-slate-800 bg-slate-950 text-white"] []],
      el "div" [classAttr "space-y-2"] [
        fieldLabel (commentId position) f.commentLabel,
        el "textarea" [textAttr "id" (commentId position),
          textAttr "placeholder" settings.commentPlaceholder, classAttr commentBox] []],
      text "Button" "bg-emerald-500 text-slate-950 hover:bg-emerald-400" f.submitLabel]]

def body (position : Nat) (settings : ExportSettings) : Block.Props → Node
  | .hero p => pitch heroLook p
  | .stats metrics => el "div" [classAttr "grid gap-3 md:grid-cols-3"] (metrics.map metric)
  | .workflow stages => workflow stages
  | .cta p => pitch ctaLook p
  | .form f => form f position settings

def dataPanel (settings : ExportSettings) (data : Value) : Node :=
  el "div" [classAttr
      "rounded-xl border border-slate-800/60 bg-slate-950/60 p-4 text-xs text-slate-300"] [
    text "p" "mb-2 font-medium text-slate-200" settings.dataPreviewLabel,
    text "pre" "max-h-40 overflow-auto whitespace-pre-wrap text-[11px] text-emerald-200"
      (Binding.preview data)]

/-- Stands where a block of an unknown kind is. -/
def unknown (blockId : String) : Node :=
  text "div" "rounded-lg border border-dashed border-amber-500/60 p-6 text-sm text-amber-200"
    (unknownText blockId)

def render (settings : ExportSettings) (s : PageSection) : Node :=
  match s.props, s.data with
  | none, _ => unknown s.blockId
  | some props, none => body s.position settings props
  | some props, some data =>
    el "div" [classAttr "space-y-4"]
      [body s.position settings props, dataPanel settings data]

/-! ### Imports -/

/-- The components of a module that a tree uses. -/
def usedOf (tags : List String) (m : KitModule) : List String :=
  m.components.filter fun name => name ∈ tags

def importLine (m : KitModule) (names : List String) : String :=
  "import \x7b " ++ ", ".intercalate names ++ " \x7d from '@/components/ui/" ++ m.name ++ "';"

/-- One line for each module of which a tree uses something. -/
def imports (node : Node) : List String :=
  let tags := node.walk.map Prod.fst
  kitByName.filterMap fun m =>
    match usedOf tags m with
    | [] => none
    | names => some (importLine m names)

end PageBuilder.Export.Kit

import PageBuilder.Binding.Resolve
import PageBuilder.Export.Section
import PageBuilder.Markup.Basic
import PageBuilder.Settings
/-! Sections in plain elements, which the style sheet of the pages gives their look.
The HTML export, the React export and the preview share them. -/
namespace PageBuilder.Export.Plain

open Block (Pitch Metric Stage FormTexts)
open Json (Value)
open Markup

/-- How the tabs of a workflow switch its stages. -/
inductive TabMode where
  /-- A script of the page finds them by class. -/
  | script
  /-- The component around them holds the state. -/
  | state
  deriving DecidableEq, Repr

def actionButton (className text : String) : Node :=
  label "button" [fixedAttr "type" "button", classAttr className] text

/-- The texts and buttons that a hero and a call to action have in common. -/
def pitch (name badgeClass titleTag : String) (p : Pitch) : List Node := [
  label "div" [classAttr badgeClass] p.badge,
  label titleTag [classAttr (name ++ "-title")] p.title,
  label "p" [classAttr (name ++ "-description")] p.description,
  el "div" [classAttr (name ++ "-actions")] [
    actionButton "btn btn-primary" p.primaryLabel,
    actionButton "btn btn-secondary" p.secondaryLabel]]

def metric (m : Metric) : Node :=
  el "div" [classAttr "stat-card"] [
    label "div" [classAttr "stat-label"] m.label,
    label "div" [classAttr "stat-value"] m.value,
    label "div" [classAttr "stat-detail"] m.detail]

/-- The attributes of a tab beside its type. -/
def tabAttrs (mode : TabMode) (index : Nat) : Attrs :=
  match mode with
  | .script => [classAttr (if index = 0 then "tab active" else "tab")]
  | .state => [
    exprAttr "class" ("active === " ++ toString index ++ " ? 'tab active' : 'tab'"),
    exprAttr "onClick" ("() => setActive(" ++ toString index ++ ")")]

def tab (mode : TabMode) (index : Nat) (s : Stage) : Node :=
  label "button" (fixedAttr "type" "button" :: tabAttrs mode index ++ [textAttr "data-tab" s.id])
    s.label

/-- The attribute by which a stage is shown or hidden. -/
def stageAttrs (mode : TabMode) (index : Nat) : Attrs :=
  match mode with
  | .script => []
  | .state => [exprAttr "style"
    ("\x7b display: active === " ++ toString index ++ " ? 'block' : 'none' \x7d")]

def stage (mode : TabMode) (index : Nat) (s : Stage) : Node :=
  el "div" (classAttr "workflow-stage" :: stageAttrs mode index ++ [textAttr "data-stage-id" s.id]) [
    label "h3" [classAttr "stage-title"] s.title,
    label "p" [classAttr "stage-description"] s.description,
    el "div" [classAttr "stage-tags"] (s.tags.map (label "span" [classAttr "tag"]))]

/-- The ids of the fields of a form; several forms on a page have different ones. -/
def emailId (position : Nat) : String := "email-" ++ toString (position + 1)
def commentId (position : Nat) : String := "comment-" ++ toString (position + 1)

def formFields (f : FormTexts) (position : Nat) (settings : ExportSettings) : List Node := [
  el "div" [classAttr "form-field"] [
    label "label" [textAttr "for" (emailId position)] f.emailLabel,
    el "input" [fixedAttr "type" "email", textAttr "id" (emailId position),
      fixedAttr "name" "email", textAttr "placeholder" settings.emailPlaceholder,
      flagAttr "required"] []],
  el "div" [classAttr "form-field"] [
    label "label" [textAttr "for" (commentId position)] f.commentLabel,
    el "textarea" [textAttr "id" (commentId position), fixedAttr "name" "comment",
      numberAttr "rows" 4, textAttr "placeholder" settings.commentPlaceholder] []],
  label "button" [fixedAttr "type" "submit", classAttr "btn btn-primary"] f.submitLabel]

/-- The class of a section and what it holds. -/
def content (mode : TabMode) (position : Nat) (settings : ExportSettings) :
    Block.Props → String × List Node
  | .hero p => ("hero-block", pitch "hero" "badge" "h1" p)
  | .stats metrics => ("stats-block", [el "div" [classAttr "stats-grid"] (metrics.map metric)])
  | .workflow stages => ("workflow-block", [
    el "div" [classAttr "tabs"] (stages.mapIdx (tab mode)),
    el "div" [classAttr "workflow-stages"] (stages.mapIdx (stage mode))])
  | .cta p => ("cta-block", pitch "cta" "badge badge-blue" "h2" p)
  | .form f => ("form-block", [
    label "h2" [classAttr "form-title"] f.title,
    label "p" [classAttr "form-description"] f.description,
    el "form" [classAttr "feedback-form"] (formFields f position settings)])

def dataPanel (settings : ExportSettings) (data : Value) : Node :=
  el "div" [classAttr "data-preview"] [
    label "p" [classAttr "data-preview-label"] settings.dataPreviewLabel,
    label "pre" [classAttr "data-preview-json"] (Binding.preview data)]

def unknownText (blockId : String) : String :=
  "Unknown block type: " ++ blockId

/-- Stands where a block of an unknown kind is. -/
def unknown (blockId : String) : Node :=
  el "section" [classAttr "unknown-block"]
    [.comment (unknownText blockId), label "p" [] (unknownText blockId)]

def render (mode : TabMode) (settings : ExportSettings) (s : PageSection) : Node :=
  match s.props with
  | none => unknown s.blockId
  | some props =>
    let (className, nodes) := content mode s.position settings props
    el "section" [classAttr className] (nodes ++ (s.data.map (dataPanel settings)).toList)

end PageBuilder.Export.Plain

import PageBuilder.Block.Props
import PageBuilder.Text.Blank
/-! Props for any value. Each field that a value lacks, or holds in another type,
is taken from the props that a new block of the kind starts with. -/
namespace PageBuilder.Block

open Json (Value)

/-! ### The props of a new block -/

def newHero : Pitch where
  badge := "New"
  title := "Build a screen in a couple of minutes"
  description := "Configure state, plug in data and generate React components from the studio library automatically."
  primaryLabel := "Add a stage"
  secondaryLabel := "Open the guide"

def firstMetric : Metric := ⟨"Teams", "12", "Working in the studio every day"⟩

def otherMetrics : List Metric := [
  ⟨"Components", "140+", "Ready-made shadcn/ui templates"⟩,
  ⟨"Delivery", "72 h", "From prototype to a production branch"⟩]

def firstStage : Stage where
  id := "plan"
  label := "Planning"
  title := "Set the context"
  description := "Describe the scenario, mark dependencies and fill in the requirements checklist. The studio will suggest ready-made blocks."
  tags := ["Requirements", "Documentation"]

def otherStages : List Stage := [
  { id := "build"
    label := "Build"
    title := "Assemble the interface"
    description := "Drag blocks onto the canvas, tune their states and connect mock data."
    tags := ["shadcn/ui", "State presets"] },
  { id := "handoff"
    label := "Handoff"
    title := "Prepare the handoff"
    description := "Export the code, write notes for QA and share a preview."
    tags := ["CI/CD", "Review"] }]

def newCta : Pitch where
  badge := "Export"
  title := "Ready for review?"
  description := "Generate production code and open a pull request straight from the studio."
  primaryLabel := "Create pull request"
  secondaryLabel := "View diff"

def newForm : FormTexts where
  title := "Team feedback"
  description := "Send the scenario for review. Designers get notified and can comment right in the studio."
  emailLabel := "Email"
  commentLabel := "Comment"
  submitLabel := "Send"

def Props.new : Kind → Props
  | .hero => .hero newHero
  | .stats => .stats (firstMetric :: otherMetrics)
  | .workflow => .workflow (firstStage :: otherStages)
  | .cta => .cta newCta
  | .form => .form newForm

/-! ### Repair -/

/-- A text, where a blank one counts as missing. -/
def solidTextOr (fallback key : String) (v : Value) : String :=
  match v.textAt? key with
  | some text => if Text.isBlank text then fallback else text
  | none => fallback

/-- The texts among the items that are not blank, if there are any. -/
def tagsOr (fallback : List String) (key : String) (v : Value) : List String :=
  match ((v.itemsAt key).filterMap Value.string?).filter fun tag => !Text.isBlank tag with
  | [] => fallback
  | tags => tags

/-- The fallback for the item at an index; fallbacks repeat in their order. -/
def fallbackAt (first : α) (others : List α) (index : Nat) : α :=
  (first :: others).getD (index % (others.length + 1)) first

/-- The items of a list from `index` on, each repaired by itself. -/
def repairFrom (repair : α → Value → α) (first : α) (others : List α) (index : Nat) :
    List Value → List α
  | [] => []
  | item :: rest =>
    repair (fallbackAt first others index) item :: repairFrom repair first others (index + 1) rest

/-- The items under `key`; all the fallbacks where there are none. -/
def repairList (repair : α → Value → α) (first : α) (others : List α) (key : String)
    (v : Value) : List α :=
  match v.itemsAt key with
  | [] => first :: others
  | items => repairFrom repair first others 0 items

def Pitch.repair (d : Pitch) (v : Value) : Pitch where
  badge := v.textOr d.badge "badge"
  title := v.textOr d.title "title"
  description := v.textOr d.description "description"
  primaryLabel := v.textOr d.primaryLabel "primaryLabel"
  secondaryLabel := v.textOr d.secondaryLabel "secondaryLabel"

def Metric.repair (d : Metric) (v : Value) : Metric where
  label := v.textOr d.label "label"
  value := v.textOr d.value "value"
  detail := v.textOr d.detail "detail"

def Stage.repair (d : Stage) (v : Value) : Stage where
  id := solidTextOr d.id "id" v
  label := v.textOr d.label "label"
  title := v.textOr d.title "title"
  description := v.textOr d.description "description"
  tags := tagsOr d.tags "tags" v

def FormTexts.repair (d : FormTexts) (v : Value) : FormTexts where
  title := v.textOr d.title "title"
  description := v.textOr d.description "description"
  emailLabel := v.textOr d.emailLabel "emailLabel"
  commentLabel := v.textOr d.commentLabel "commentLabel"
  submitLabel := v.textOr d.submitLabel "submitLabel"

/-- Props of a kind from any value. -/
def Props.repair (kind : Kind) (v : Value) : Props :=
  match kind with
  | .hero => .hero (newHero.repair v)
  | .stats => .stats (repairList Metric.repair firstMetric otherMetrics "metrics" v)
  | .workflow => .workflow (repairList Stage.repair firstStage otherStages "stages" v)
  | .cta => .cta (newCta.repair v)
  | .form => .form (newForm.repair v)

@[simp] theorem Props.kind_repair (kind : Kind) (v : Value) :
    (Props.repair kind v).kind = kind := by
  cases kind <;> rfl

end PageBuilder.Block

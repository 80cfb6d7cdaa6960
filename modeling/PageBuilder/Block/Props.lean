import PageBuilder.Block.Kind
import PageBuilder.Json.Shape
/-! What a block of each kind shows, and how it is stored. -/
namespace PageBuilder.Block

open Json (Value Shape Field)

/-- The texts of a hero and of a call to action. -/
structure Pitch where
  badge : String
  title : String
  description : String
  primaryLabel : String
  secondaryLabel : String
  deriving DecidableEq, Repr

structure Metric where
  label : String
  value : String
  detail : String
  deriving DecidableEq, Repr

structure Stage where
  id : String
  label : String
  title : String
  description : String
  tags : List String
  deriving DecidableEq, Repr

structure FormTexts where
  title : String
  description : String
  emailLabel : String
  commentLabel : String
  submitLabel : String
  deriving DecidableEq, Repr

inductive Props where
  | hero (pitch : Pitch)
  | stats (metrics : List Metric)
  | workflow (stages : List Stage)
  | cta (pitch : Pitch)
  | form (texts : FormTexts)
  deriving DecidableEq, Repr

def Props.kind : Props → Kind
  | .hero _ => .hero
  | .stats _ => .stats
  | .workflow _ => .workflow
  | .cta _ => .cta
  | .form _ => .form

/-! ### Writing -/

def Pitch.toValue (p : Pitch) : Value :=
  .object [("badge", .string p.badge), ("title", .string p.title),
    ("description", .string p.description), ("primaryLabel", .string p.primaryLabel),
    ("secondaryLabel", .string p.secondaryLabel)]

def Metric.toValue (m : Metric) : Value :=
  .object [("label", .string m.label), ("value", .string m.value), ("detail", .string m.detail)]

def Stage.toValue (s : Stage) : Value :=
  .object [("id", .string s.id), ("label", .string s.label), ("title", .string s.title),
    ("description", .string s.description), ("tags", .array (s.tags.map .string))]

def FormTexts.toValue (f : FormTexts) : Value :=
  .object [("title", .string f.title), ("description", .string f.description),
    ("emailLabel", .string f.emailLabel), ("commentLabel", .string f.commentLabel),
    ("submitLabel", .string f.submitLabel)]

def Props.toValue : Props → Value
  | .hero pitch => pitch.toValue
  | .stats metrics => .object [("metrics", .array (metrics.map Metric.toValue))]
  | .workflow stages => .object [("stages", .array (stages.map Stage.toValue))]
  | .cta pitch => pitch.toValue
  | .form texts => texts.toValue

/-! ### Reading

Props are read strictly where a value must hold all of them and nothing is to be
repaired. -/

def pitchFields : List Field :=
  [.required "badge" .string, .required "title" .string, .required "description" .string,
    .required "primaryLabel" .string, .required "secondaryLabel" .string]

def metricShape : Shape :=
  .record "StatsMetric"
    [.required "label" .string, .required "value" .string, .required "detail" .string]

def stageShape : Shape :=
  .record "WorkflowStage"
    [.required "id" .string, .required "label" .string, .required "title" .string,
      .required "description" .string, .required "tags" (.list .string)]

def Kind.shape : Kind → Shape
  | .hero => .record "HeroProps" pitchFields
  | .stats => .record "StatsProps" [.required "metrics" (.list metricShape)]
  | .workflow => .record "WorkflowProps" [.required "stages" (.list stageShape)]
  | .cta => .record "CtaProps" pitchFields
  | .form =>
    .record "FormProps"
      [.required "title" .string, .required "description" .string,
        .required "emailLabel" .string, .required "commentLabel" .string,
        .required "submitLabel" .string]

def Pitch.ofPlain (v : Value) : Pitch :=
  ⟨v.textAt "badge", v.textAt "title", v.textAt "description", v.textAt "primaryLabel",
    v.textAt "secondaryLabel"⟩

def Metric.ofPlain (v : Value) : Metric :=
  ⟨v.textAt "label", v.textAt "value", v.textAt "detail"⟩

def Stage.ofPlain (v : Value) : Stage :=
  ⟨v.textAt "id", v.textAt "label", v.textAt "title", v.textAt "description",
    (v.itemsAt "tags").filterMap Value.string?⟩

def FormTexts.ofPlain (v : Value) : FormTexts :=
  ⟨v.textAt "title", v.textAt "description", v.textAt "emailLabel", v.textAt "commentLabel",
    v.textAt "submitLabel"⟩

def Props.ofPlain (kind : Kind) (v : Value) : Props :=
  match kind with
  | .hero => .hero (Pitch.ofPlain v)
  | .stats => .stats ((v.itemsAt "metrics").map Metric.ofPlain)
  | .workflow => .workflow ((v.itemsAt "stages").map Stage.ofPlain)
  | .cta => .cta (Pitch.ofPlain v)
  | .form => .form (FormTexts.ofPlain v)

def Props.read (kind : Kind) (v : Value) : Except Json.Mismatch Props :=
  (kind.shape.conform v).map (Props.ofPlain kind)

end PageBuilder.Block

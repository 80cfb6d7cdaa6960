import PageBuilder.Json.ShapeReader
/-! Settings of the studio. Every field has a default, so an empty object is a
complete configuration. -/
namespace PageBuilder

open Json (Value Shape Mismatch Failure)

/-- What goes into generated sources beside the page itself. -/
structure ExportSettings where
  /-- The `lang` attribute of generated pages. -/
  htmlLang : String := "en"
  /-- The product named in readmes, descriptions and banners. -/
  generatorName : String := "Pagesmith"
  emailPlaceholder : String := "team@yourcompany.com"
  commentPlaceholder : String := "Describe what needs to be reviewed or built."
  /-- The heading over embedded data. -/
  dataPreviewLabel : String := "Sample data"
  deriving DecidableEq, Repr

/-- `quietPeriod` is in milliseconds. -/
structure AutosaveSettings where
  quietPeriod : Nat := 1200
  deriving DecidableEq, Repr

structure StudioConfig where
  exporting : ExportSettings := {}
  autosave : AutosaveSettings := {}
  deriving DecidableEq, Repr

namespace ExportSettings

def shape : Shape :=
  .record "ExportSettings"
    [.optional "htmlLang" .string, .optional "generatorName" .string,
      .optional "emailPlaceholder" .string, .optional "commentPlaceholder" .string,
      .optional "dataPreviewLabel" .string]

def ofPlain (v : Value) : ExportSettings :=
  let d : ExportSettings := {}
  ⟨v.textOr d.htmlLang "htmlLang", v.textOr d.generatorName "generatorName",
    v.textOr d.emailPlaceholder "emailPlaceholder",
    v.textOr d.commentPlaceholder "commentPlaceholder",
    v.textOr d.dataPreviewLabel "dataPreviewLabel"⟩

def read (v : Value) : Except Mismatch ExportSettings :=
  (shape.conform v).map ofPlain

def toValue (s : ExportSettings) : Value :=
  .object [("htmlLang", .string s.htmlLang), ("generatorName", .string s.generatorName),
    ("emailPlaceholder", .string s.emailPlaceholder),
    ("commentPlaceholder", .string s.commentPlaceholder),
    ("dataPreviewLabel", .string s.dataPreviewLabel)]

end ExportSettings

namespace AutosaveSettings

def shape : Shape :=
  .record "AutosaveSettings" [.optional "quietPeriodMs" .natural]

def ofPlain (v : Value) : AutosaveSettings :=
  match v.member? "quietPeriodMs" with
  | some (.number (.integer ms)) => ⟨ms.toNat⟩
  | _ => {}

def read (v : Value) : Except Mismatch AutosaveSettings :=
  (shape.conform v).map ofPlain

def toValue (s : AutosaveSettings) : Value :=
  .object [("quietPeriodMs", .number (.integer s.quietPeriod))]

end AutosaveSettings

/-- Why there is no configuration. -/
inductive ConfigError where
  | unreadable (path reason : String)
  | malformed (failure : Failure)
  deriving DecidableEq, Repr

def ConfigError.message : ConfigError → String
  | .unreadable path reason => "Could not read config file '" ++ path ++ "': " ++ reason
  | .malformed failure => "Failed to parse config JSON: " ++ failure.message

namespace StudioConfig

def shape : Shape :=
  .record "StudioConfig"
    [.optional "export" ExportSettings.shape, .optional "autosave" AutosaveSettings.shape]

def ofPlain (v : Value) : StudioConfig :=
  ⟨.ofPlain (v.valueAt "export"), .ofPlain (v.valueAt "autosave")⟩

def parse (text : String) : Except ConfigError StudioConfig :=
  match shape.parse text with
  | .ok v => .ok (ofPlain v)
  | .error failure => .error (.malformed failure)

def toValue (c : StudioConfig) : Value :=
  .object [("export", c.exporting.toValue), ("autosave", c.autosave.toValue)]

end StudioConfig

end PageBuilder

import PageBuilder.Json.Shape
/-! Export formats, and the files that an export consists of. -/
namespace PageBuilder

open Json (Value Shape Mismatch)

inductive ExportFormat where
  | html
  | react
  | nextjs
  deriving DecidableEq, Repr, Inhabited

namespace ExportFormat

def all : List ExportFormat := [.html, .react, .nextjs]

def id : ExportFormat → String
  | .html => "html"
  | .react => "react"
  | .nextjs => "nextjs"

def ofId? (id : String) : Option ExportFormat :=
  all.find? fun format => format.id = id

@[simp] theorem ofId?_id (format : ExportFormat) : ofId? format.id = some format := by
  cases format <;> decide

def displayName : ExportFormat → String
  | .html => "Static HTML"
  | .react => "React"
  | .nextjs => "Next.js"

/-- The file that a reader opens first. -/
def entryPoint : ExportFormat → String
  | .html => "index.html"
  | .react => "src/App.tsx"
  | .nextjs => "src/app/page.tsx"

end ExportFormat

inductive ExportError where
  | unsupportedFormat (name : String)
  /-- An archive holds no two files of one path. -/
  | duplicatePath (path : String)
  deriving DecidableEq, Repr

def ExportError.message : ExportError → String
  | .unsupportedFormat name => "Unsupported export format: '" ++ name ++ "'"
  | .duplicatePath path =>
    "Failed to build export archive: invalid Zip archive: Duplicate filename: " ++ path

def ExportFormat.read (id : String) : Except ExportError ExportFormat :=
  match ofId? id with
  | some format => .ok format
  | none => .error (.unsupportedFormat id)

structure ExportFile where
  path : String
  content : String
  deriving DecidableEq, Repr

structure ExportResult where
  files : List ExportFile
  format : ExportFormat
  deriving DecidableEq, Repr

namespace ExportFile

def shape : Shape :=
  .record "ExportFile" [.required "path" .string, .required "content" .string]

def ofPlain (v : Value) : ExportFile :=
  ⟨v.textAt "path", v.textAt "content"⟩

def readList (v : Value) : Except Mismatch (List ExportFile) := do
  let plain ← (Shape.list shape).conform v
  return (plain.items?.getD []).map ofPlain

end ExportFile

namespace ExportResult

def shape : Shape :=
  .record "ExportResult"
    [.required "files" (.list ExportFile.shape),
      .required "format" (.choice (ExportFormat.all.map ExportFormat.id))]

def read (v : Value) : Except Mismatch ExportResult := do
  let plain ← shape.conform v
  return ⟨(plain.itemsAt "files").map .ofPlain,
    (ExportFormat.ofId? (plain.textAt "format")).getD .html⟩

def file? (result : ExportResult) (path : String) : Option ExportFile :=
  result.files.find? fun f => f.path = path

def rule : String :=
  String.ofList (List.replicate 80 '=')

/-- All files in one text, each under its path. -/
def concatenated (result : ExportResult) : String :=
  ("\n\n" ++ rule ++ "\n\n").intercalate
    (result.files.map fun f => "// " ++ f.path ++ "\n" ++ f.content)

end ExportResult

end PageBuilder

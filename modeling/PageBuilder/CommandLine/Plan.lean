import PageBuilder.Canvas.Normalize
import PageBuilder.Canvas.Stored
import PageBuilder.CommandLine.Arguments
import PageBuilder.Export.Archive
import PageBuilder.Export.Generate
import PageBuilder.Source.Stored
/-! What a command does: from the files that it reads to what it prints or saves. -/
namespace PageBuilder.CommandLine

open Json (Failure)

/-- Why a file cannot be read or written. -/
inductive FileFailure where
  | missing
  | denied
  | notDirectory
  | isDirectory
  | nameTooLong
  | zeroByte
  | notText
  | other (reason : String)
  deriving DecidableEq, Repr

def FileFailure.message : FileFailure → String
  | .missing => "No such file or directory (os error 2)"
  | .denied => "Permission denied (os error 13)"
  | .notDirectory => "Not a directory (os error 20)"
  | .isDirectory => "Is a directory (os error 21)"
  | .nameTooLong => "File name too long (os error 36)"
  | .zeroByte => "file name contained an unexpected NUL byte"
  | .notText => "stream did not contain valid UTF-8"
  | .other reason => reason

/-- The file at a path, or why there is none to read. -/
abbrev ReadFile := String → Except FileFailure String

inductive CommandFailure where
  | unreadable (what path : String) (reason : FileFailure)
  | malformed (what : String) (failure : Failure)
  | config (error : ConfigError)
  | exporting (error : ExportError)
  | unwritable (path : String) (reason : FileFailure)
  deriving DecidableEq, Repr

def CommandFailure.message : CommandFailure → String
  | .unreadable what path reason =>
    "Failed to read " ++ what ++ " file '" ++ path ++ "': " ++ reason.message
  | .malformed what failure => "Failed to parse " ++ what ++ " JSON: " ++ failure.message
  | .config error => error.message
  | .exporting error => error.message
  | .unwritable path reason => "Failed to write '" ++ path ++ "': " ++ reason.message

inductive Saved where
  | text (content : String)
  | archive (entries : List Export.ArchiveEntry)
  deriving DecidableEq

/-- What is left to do: a file to save, if any, and what to print then. -/
structure Plan where
  save : Option (String × Saved)
  print : String
  deriving DecidableEq

/-! ### Reading -/

def readJson (files : ReadFile) (what path : String) (parse : String → Except Failure α) :
    Except CommandFailure α :=
  match files path with
  | .error reason => .error (.unreadable what path reason)
  | .ok text =>
    match parse text with
    | .error failure => .error (.malformed what failure)
    | .ok result => .ok result

def readCanvas (files : ReadFile) (path : String) : Except CommandFailure Canvas :=
  readJson files "canvas" path Canvas.parse

def readSources (files : ReadFile) (path : Option String) :
    Except CommandFailure (List DataSource) :=
  match path with
  | none => .ok []
  | some path => readJson files "data sources" path DataSource.parseList

/-- The configuration in a file. -/
def loadConfig (files : ReadFile) (path : String) : Except ConfigError StudioConfig :=
  match files path with
  | .error reason => .error (.unreadable path reason.message)
  | .ok text => StudioConfig.parse text

def readConfig (files : ReadFile) (path : Option String) : Except CommandFailure StudioConfig :=
  match path with
  | none => .ok {}
  | some path => (loadConfig files path).mapError .config

/-! ### Commands -/

def padRight (width : Nat) (text : String) : String :=
  text ++ String.ofList (List.replicate (width - text.length) ' ')

def padLeft (width : Nat) (text : String) : String :=
  String.ofList (List.replicate (width - text.length) ' ') ++ text

/-- The listing of an export that is not written. -/
def listing (result : ExportResult) : String :=
  Text.document ((toString result.files.length ++ " files for " ++ result.format.displayName ++
    " export:") :: result.files.map fun f =>
      "  " ++ padRight 40 f.path ++ " " ++ padLeft 8 (toString f.content.utf8ByteSize) ++ " bytes")

/-- Saves the archive of an export and says so. -/
def archivePlan (result : ExportResult) (path : String) : Except CommandFailure Plan :=
  match Export.archive result.files with
  | .error e => .error (.exporting e)
  | .ok entries =>
    .ok ⟨some (path, .archive entries),
      "Wrote " ++ path ++ " (" ++ toString entries.length ++ " files)\n"⟩

def Command.plan (files : ReadFile) : Command → Except CommandFailure Plan
  | .generate canvas format name sources config out dryRun => do
    let canvas ← readCanvas files canvas
    let sources ← readSources files sources
    let config ← readConfig files config
    let result := Export.generate format canvas name sources config.exporting
    if dryRun then return ⟨none, listing result⟩
    else archivePlan result (out.getD (Export.archiveName name format))
  | .normalize canvas => do
    let canvas ← readCanvas files canvas
    return ⟨none, canvas.normalize.toValue.pretty ++ "\n"⟩
  | .fields payload => do
    let payload ← readJson files "payload" payload Json.parse
    return ⟨none, Text.document (Binding.fields payload)⟩
  | .preview canvas name sources config out => do
    let canvas ← readCanvas files canvas
    let sources ← readSources files sources
    let config ← readConfig files config
    let page := Export.previewPage canvas name sources none config.exporting
    match out with
    | some path => return ⟨some (path, .text page), ""⟩
    | none => return ⟨none, page⟩

/-- The files that a command reads. -/
def Command.inputs : Command → List String
  | .generate canvas _ _ sources config _ _ => canvas :: sources.toList ++ config.toList
  | .normalize canvas => [canvas]
  | .fields payload => [payload]
  | .preview canvas _ sources config _ => canvas :: sources.toList ++ config.toList

end PageBuilder.CommandLine

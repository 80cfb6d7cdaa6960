import PageBuilder.CommandLine.Plan
/-! The command line program: reads the files that a command asks for, lets it plan,
and carries the plan out. -/
namespace PageBuilder.CommandLine

def usage : String :=
  Text.document [
    "Export, inspect and preview page-builder canvases",
    "",
    "  export CANVAS [-f html|react|nextjs] [-n NAME] [-s SOURCES] [-c CONFIG] [-o OUT] [--dry-run]",
    "  normalize CANVAS",
    "  fields PAYLOAD",
    "  preview CANVAS [-s SOURCES] [-n NAME] [-c CONFIG] [-o OUT]"]

/-- The number of a system's failure, which some calls give negated. -/
def systemNumber (code : UInt32) : UInt32 := min code (0 - code)

def fileFailure (e : IO.Error) : FileFailure :=
  match e with
  | .noFileOrDirectory .. => .missing
  | .permissionDenied .. => .denied
  | .inappropriateType _ code _ => if systemNumber code = 20 then .notDirectory else .isDirectory
  | .invalidArgument _ code _ => if systemNumber code = 36 then .nameTooLong else .zeroByte
  | .userError reason => .other reason
  | e => .other (toString e)

/-- The text of a file. -/
def readText (path : String) : IO (Except FileFailure String) := do
  try
    let bytes ← IO.FS.readBinFile path
    match String.fromUTF8? bytes with
    | some text => return .ok text
    | none => return .error .notText
  catch e => return .error (fileFailure e)

def save (path : String) (saved : Saved) : IO (Except FileFailure Unit) := do
  try
    match saved with
    | .text content => IO.FS.writeFile path content
    | .archive entries => IO.FS.writeBinFile path (Export.Zip.bytes entries)
    return .ok ()
  catch e => return .error (fileFailure e)

def report (failure : CommandFailure) : IO UInt32 := do
  IO.eprintln ("\nError: " ++ failure.message)
  return 1

def run (command : Command) : IO UInt32 := do
  let texts ← command.inputs.mapM fun path => do return (path, ← readText path)
  match command.plan fun path => (Assoc.get? path texts).getD (.error .missing) with
  | .error failure => report failure
  | .ok plan =>
    match plan.save with
    | none => IO.print plan.print
    | some (path, saved) =>
      match ← save path saved with
      | .error reason => return ← report (.unwritable path reason)
      | .ok () => IO.print plan.print
    return 0

end PageBuilder.CommandLine

def main (args : List String) : IO UInt32 := do
  match PageBuilder.CommandLine.Command.parse args with
  | some command => PageBuilder.CommandLine.run command
  | none =>
    IO.eprint PageBuilder.CommandLine.usage
    return 2

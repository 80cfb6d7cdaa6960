import PageBuilder.CommandLine.Plan
import PageBuilder.Text.Pieces
/-! A folder of files, without folders in it, as the place where a command runs. -/
namespace PageBuilder.CommandLine

/-- Names and contents. -/
abbrev Folder := List (String × String)

/-- What a path leads to. Only folders have an end that is not a name. -/
inductive Target where
  | folder
  | file (name content : String)
  | newFile (name : String)
  | newElsewhere
  deriving DecidableEq, Repr

/-- The folders that a path can pass: the one where the command runs, those above
it, the root, and those right below the root. -/
inductive Spot where
  | here
  | above
  | root
  | belowRoot
  deriving DecidableEq, Repr

def Spot.up : Spot → Spot
  | .here | .above => .above
  | .root | .belowRoot => .root

namespace Folder

def longestName : Nat := 255
def longestPath : Nat := 4095

/-- The folders that every system has below its root. -/
def rootFolders : List String :=
  ["bin", "boot", "dev", "etc", "home", "lib", "lib64", "media", "mnt", "opt", "proc", "root",
    "run", "sbin", "srv", "sys", "tmp", "usr", "var"]

/-- Follows the pieces of a path. A file ends it, so nothing may come behind one, and
to save under a name with a slash behind it would take a folder. -/
def follow (folder : Folder) (saving : Bool) : Spot → List String → Except FileFailure Target
  | _, [] => .ok .folder
  | spot, piece :: rest =>
    if piece = "" || piece = "." then follow folder saving spot rest
    else if piece = ".." then follow folder saving spot.up rest
    else if saving && !rest.isEmpty && rest.all (·.isEmpty) then .error .isDirectory
    else if longestName < piece.utf8ByteSize then .error .nameTooLong
    else if spot = .root && piece ∈ rootFolders then follow folder saving .belowRoot rest
    else
      match if spot = .here then Assoc.get? piece folder else none with
      | some content => if rest.isEmpty then .ok (.file piece content) else .error .notDirectory
      | none =>
        if !rest.isEmpty then .error .missing
        else .ok (if spot = .here then .newFile piece else .newElsewhere)

/-- What a path leads to. Outside the folder no files are known. -/
def find (folder : Folder) (saving : Bool) (path : String) : Except FileFailure Target :=
  if path.toList.contains '\x00' then .error .zeroByte
  else if path.isEmpty then .error .missing
  else if longestPath < path.utf8ByteSize then .error .nameTooLong
  else
    let start := if path.toList.head? = some '/' then .root else .here
    follow folder saving start ((Text.pieces '/' path.toList).map String.ofList)

def read (folder : Folder) (path : String) : Except FileFailure String :=
  match find folder false path with
  | .ok (.file _ content) => .ok content
  | .ok .folder => .error .isDirectory
  | .ok (.newFile _) | .ok .newElsewhere => .error .missing
  | .error reason => .error reason

/-- The name that a saved file gets in the folder; it has none if it goes elsewhere. -/
def writable (folder : Folder) (path : String) : Except FileFailure (Option String) :=
  match find folder true path with
  | .ok (.file name _) | .ok (.newFile name) => .ok (some name)
  | .ok .newElsewhere => .ok none
  | .ok .folder => .error .isDirectory
  | .error reason => .error reason

end Folder

/-- How a command ended. -/
inductive Ending where
  | misused
  | failed (failure : CommandFailure)
  | done (printed : String) (written : Option (String × Saved))
  deriving DecidableEq

/-- Runs a command line in a folder. -/
def runIn (folder : Folder) (args : List String) : Ending :=
  match Command.parse args with
  | none => .misused
  | some command =>
    match command.plan folder.read with
    | .error failure => .failed failure
    | .ok ⟨none, print⟩ => .done print none
    | .ok ⟨some (path, saved), print⟩ =>
      match folder.writable path with
      | .error reason => .failed (.unwritable path reason)
      | .ok name => .done print (name.map fun name => (name, saved))

end PageBuilder.CommandLine

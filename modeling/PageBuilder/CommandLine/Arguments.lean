import PageBuilder.Export.Format
/-! Command lines: options and operands by the rules of each command. -/
namespace PageBuilder.CommandLine

/-- An option by its long name and, if it has one, its letter. -/
structure Opt where
  long : String
  letter : Option Char
  takesValue : Bool
  deriving DecidableEq, Repr

/-- A part of a command line. -/
inductive Item where
  | flag (long : String)
  | value (long text : String)
  | operand (text : String)
  deriving DecidableEq, Repr

def findLong? (options : List Opt) (long : List Char) : Option Opt :=
  options.find? fun o => o.long.toList = long

def findLetter? (options : List Opt) (letter : Char) : Option Opt :=
  options.find? fun o => o.letter = some letter

/-- Letters behind one hyphen. What follows the letter of an option with a value is
that value, after an equals sign or at once; if nothing follows, the option still
waits for one. -/
def letters (options : List Opt) : List Char → Option (List Item × Option String)
  | [] => some ([], none)
  | c :: rest => do
    let o ← findLetter? options c
    if o.takesValue then
      match rest with
      | [] => return ([], some o.long)
      | '=' :: text => return ([.value o.long (String.ofList text)], none)
      | text => return ([.value o.long (String.ofList text)], none)
    else
      let (items, waiting) ← letters options rest
      return (.flag o.long :: items, waiting)

/-- A long option, and the value behind its equals sign. -/
def longOption (options : List Opt) (text : List Char) : Option (List Item × Option String) := do
  let name := text.takeWhile (· ≠ '=')
  let o ← findLong? options name
  match text.drop name.length, o.takesValue with
  | [], true => return ([], some o.long)
  | [], false => return ([.flag o.long], none)
  | _ :: content, true => return ([.value o.long (String.ofList content)], none)
  | _ :: _, false => none

/-- A lone hyphen is an operand; so is all behind two of them. -/
def isOption (arg : String) : Bool :=
  match arg.toList with
  | '-' :: _ :: _ => true
  | _ => false

/-- The parts of a command line; `none` if it does not follow the rules. An option
that waits for a value takes the next argument, unless that is an option itself. -/
def items (options : List Opt) : List String → Option (List Item)
  | [] => some []
  | arg :: rest =>
    let go (parsed : Option (List Item × Option String)) : Option (List Item) :=
      match parsed with
      | none => none
      | some (found, none) => (items options rest).map (found ++ ·)
      | some (found, some long) =>
        match rest with
        | [] => none
        | text :: rest =>
          if isOption text then none
          else (items options rest).map (found ++ .value long text :: ·)
    match arg.toList with
    | ['-', '-'] => some (rest.map .operand)
    | '-' :: '-' :: body => go (longOption options body)
    | '-' :: c :: body => go (letters options (c :: body))
    | _ => (items options rest).map (.operand arg :: ·)

namespace Item

def optionName? : Item → Option String
  | .flag long => some long
  | .value long _ => some long
  | .operand _ => none

def operand? : Item → Option String
  | .operand text => some text
  | _ => none

end Item

def valueOf? (parts : List Item) (long : String) : Option String :=
  parts.findSome? fun part =>
    match part with
    | .value name text => if name = long then some text else none
    | _ => none

/-! ### Commands -/

inductive Command where
  | generate (canvas : String) (format : ExportFormat) (name : String)
      (sources config out : Option String) (dryRun : Bool)
  | normalize (canvas : String)
  | fields (payload : String)
  | preview (canvas : String) (name : String) (sources config out : Option String)
  deriving DecidableEq, Repr

def verbose : Opt := ⟨"verbose", some 'v', false⟩
def format : Opt := ⟨"format", some 'f', true⟩
def name : Opt := ⟨"name", some 'n', true⟩
def sources : Opt := ⟨"sources", some 's', true⟩
def config : Opt := ⟨"config", some 'c', true⟩
def out : Opt := ⟨"out", some 'o', true⟩
def dryRun : Opt := ⟨"dry-run", none, false⟩

def defaultName : String := "My Project"

/-- The parts of a command with one operand in which no option stands twice. -/
def operandAndParts (options : List Opt) (args : List String) : Option (String × List Item) := do
  let parts ← items (verbose :: options) args
  if (parts.filterMap Item.optionName?).Nodup then
    match parts.filterMap Item.operand? with
    | [operand] => return (operand, parts)
    | _ => none
  else none

def exportCommand (args : List String) : Option Command := do
  let (canvas, parts) ← operandAndParts [format, name, sources, config, out, dryRun] args
  let format ← ExportFormat.ofId? ((valueOf? parts format.long).getD ExportFormat.html.id)
  return .generate canvas format ((valueOf? parts name.long).getD defaultName)
    (valueOf? parts sources.long) (valueOf? parts config.long) (valueOf? parts out.long)
    (.flag dryRun.long ∈ parts)

def previewCommand (args : List String) : Option Command := do
  let (canvas, parts) ← operandAndParts [name, sources, config, out] args
  return .preview canvas ((valueOf? parts name.long).getD defaultName)
    (valueOf? parts sources.long) (valueOf? parts config.long) (valueOf? parts out.long)

/-- The command that a command line means. The option for more messages may also
stand once before the command's name. -/
def Command.parse (args : List String) : Option Command :=
  match args with
  | "-v" :: rest | "--verbose" :: rest => ofNamed rest
  | args => ofNamed args
where
  ofNamed : List String → Option Command
    | "export" :: args => exportCommand args
    | "normalize" :: args => (operandAndParts [] args).map fun p => .normalize p.1
    | "fields" :: args => (operandAndParts [] args).map fun p => .fields p.1
    | "preview" :: args => previewCommand args
    | _ => none

end PageBuilder.CommandLine

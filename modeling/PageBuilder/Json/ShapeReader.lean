import PageBuilder.Json.Shape
/-! Reading a text by a shape, without a value in between: what the shape does not
ask for is passed, and a failure stands where the text misses the shape. -/
namespace PageBuilder.Json

namespace Scan

def failMismatch (m : Mismatch) : Scan α :=
  failHere (.mismatch m)

/-- Stops at a value of the wrong type, behind it if it is a scalar. `c` is the
first character of the value. -/
def failType (c : Char) (want : Want) : Scan α := do
  match c with
  | '[' => failMismatch (.wrongType .sequence want)
  | '\x7b' => failMismatch (.wrongType .map want)
  | _ => failMismatch (.wrongType (← scalar c).found want)

/-- A scalar that a check accepts. -/
def checked (check : Value → Except Mismatch Value) (c : Char) : Scan Value := do
  match check (← scalar c) with
  | .ok v => return v
  | .error m => failMismatch m

def readString (c : Char) : Scan Value :=
  if c = '"' then checked conformString c else failType c .string

def readNatural (c : Char) : Scan Value :=
  if c = '-' || c.isDigit then checked conformNatural c else failType c .natural

/-- Behind the elements that were asked for, a list must end. -/
def closeList : Scan Unit := do
  match ← peekSolid with
  | none => failPast .endOfList
  | some ']' => skip
  | some ',' =>
    skip
    match ← peekSolid with
    | some ']' => failPast .trailingComma
    | _ => failPast .trailingCharacters
  | some _ => failPast .trailingCharacters

/-- One of the names, as a text. -/
def readName (names : List String) : Scan String := do
  let name ← string
  if name ∉ names then failMismatch (.unknownChoice name names)
  return name

/-- A name from the list, or an object of one member with such a name and null. -/
def readChoice (names : List String) (depth : Nat) (c : Char) : Scan Value := do
  match c with
  | '"' => return .string (← readName names)
  | '\x7b' =>
    let _ ← enter depth
    if !(← atKey true) then failPast .noValue
    let name ← readName names
    colon
    match ← peekSolid with
    | none => failPast .endOfValue
    | some c => if c = 'n' then discard (scalar c) else failType c .nothing
    match ← peekSolid with
    | some '\x7d' => skip
    | some _ => failHere .noValue
    | none => failHere .endOfObject
    return .string name
  | _ => failPast .noValue

/-- Texts by their keys, up to the closing brace. -/
def readTexts : Nat → Bool → Members → Scan Members
  | 0, _, _ => failPast .endOfObject
  | steps + 1, first, done => do
    if ← atKey first then
      let key ← string
      colon
      match ← peekSolid with
      | none => failPast .endOfValue
      | some c => readTexts steps false (Assoc.put key (← readString c) done)
    else
      skip
      return done

/-- A key that came before. What follows it is passed if it ends the object. -/
def failDuplicate (key : String) : Scan α := do
  if (← peekSolid) = some '\x7d' then skip
  failMismatch (.duplicate key)

mutual

def read : (steps depth : Nat) → Shape → Scan Value
  | 0, _, _ => failPast .endOfValue
  | steps + 1, depth, shape => do
    match ← peekSolid with
    | none => failPast .endOfValue
    | some c =>
      match shape with
      | .any => value steps depth
      | .string => readString c
      | .natural => readNatural c
      | .nullable shape => if c = 'n' then scalar c else read steps depth shape
      | .list shape =>
        if c = '[' then return .array (← readItems steps (← enter depth) shape true [])
        else failType c .sequence
      | .texts =>
        if c = '\x7b' then
          let _ ← enter depth
          return .object (← readTexts steps true [])
        else failType c .map
      | .choice names => readChoice names depth c
      | .record name fields =>
        if c = '[' then
          let members ← readParts steps (← enter depth) name fields fields true 0
          closeList
          return .object members
        else if c = '\x7b' then
          return .object (← readMembers steps (← enter depth) fields true [])
        else failType c (.record name)

def readItems : (steps depth : Nat) → Shape → Bool → List Value → Scan (List Value)
  | 0, _, _, _, _ => failPast .endOfList
  | steps + 1, depth, shape, first, done => do
    if ← atElement first then
      let v ← read steps depth shape
      readItems steps depth shape false (v :: done)
    else
      skip
      return done.reverse

/-- The fields `left` of a record, by the elements from here on. -/
def readParts : (steps depth : Nat) → String → (fields left : List Field) → Bool → Nat →
    Scan Members
  | 0, _, _, _, _, _, _ => failPast .endOfList
  | steps + 1, depth, name, fields, left, first, taken => do
    match left with
    | [] => return []
    | field :: left =>
      if ← atElement first then
        let v ← read steps depth field.shape
        return (field.name, v) :: (← readParts steps depth name fields left false (taken + 1))
      else if field.isRequired then
        skip
        failMismatch (.tooFew taken name fields.length)
      else readParts steps depth name fields left first (taken + 1)

/-- The fields of a record by their names, up to the closing brace. -/
def readMembers : (steps depth : Nat) → List Field → Bool → Members → Scan Members
  | 0, _, _, _, _ => failPast .endOfObject
  | steps + 1, depth, fields, first, done => do
    if ← atKey first then
      let key ← string
      match fields.find? fun f => f.name = key with
      | none =>
        colon
        pass steps []
        readMembers steps depth fields false done
      | some field =>
        if (Assoc.get? key done).isSome then failDuplicate key
        colon
        let v ← read steps depth field.shape
        readMembers steps depth fields false (done ++ [(key, v)])
    else
      skip
      match firstMissing? fields done with
      | some field => failMismatch (.missing field)
      | none => return done

end

end Scan

/-- Reads a text that must have the shape, and gives its plain form. -/
def Shape.parse (shape : Shape) (text : String) : Except Failure Value :=
  readAll (fun steps => Scan.read steps Scan.depthLimit shape) text

end PageBuilder.Json

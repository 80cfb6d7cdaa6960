import PageBuilder.Json.Scan
/-! Reading any JSON value, and passing one without reading it. -/
namespace PageBuilder.Json

namespace Scan

/-- A text may nest fewer containers than this. -/
def depthLimit : Nat := 128

/-- Enters a container, the reader standing at its bracket. `depth` is what the
surroundings leave; the containers inside get one less. -/
def enter (depth : Nat) : Scan Nat := do
  if depth ≤ 1 then failPast .tooDeep
  skip
  return depth - 1

/-- Goes on to the next element of a list, past the comma that must stand before
it unless it is the first one; `false` at the closing bracket. -/
def atElement (first : Bool) : Scan Bool := do
  match ← peekSolid with
  | none => failPast .endOfList
  | some ']' => return false
  | some c =>
    if first then return true
    else if c = ',' then
      skip
      match ← peekSolid with
      | none => failPast .endOfValue
      | some ']' => failPast .trailingComma
      | some _ => return true
    else failPast .noListComma

/-- The same for the key of a member; the reader is then at its quote. -/
def atKey (first : Bool) : Scan Bool := do
  match ← peekSolid with
  | none => failPast .endOfObject
  | some '\x7d' => return false
  | some c =>
    if first then
      if c = '"' then return true else failPast .keyNotString
    else if c = ',' then
      skip
      match ← peekSolid with
      | none => failPast .endOfValue
      | some '"' => return true
      | some '\x7d' => failPast .trailingComma
      | some _ => failPast .keyNotString
    else failPast .noObjectComma

def colon : Scan Unit := do
  match ← peekSolid with
  | none => failPast .endOfObject
  | some ':' => skip
  | some _ => failPast .noColon

/-- A scalar, the reader standing at its first character `c`. -/
def scalar (c : Char) : Scan Value := do
  match c with
  | 'n' =>
    skip
    word ['u', 'l', 'l']
    return .null
  | 't' =>
    skip
    word ['r', 'u', 'e']
    return .bool true
  | 'f' =>
    skip
    word ['a', 'l', 's', 'e']
    return .bool false
  | '-' =>
    skip
    return .number (← number true)
  | '"' => return .string (← string)
  | _ => if c.isDigit then return .number (← number false) else failPast .noValue

mutual

/-- Any value. The `steps` left bound the recursion; a step passes a character or
goes into a container whose bracket was passed. -/
def value (steps depth : Nat) : Scan Value := do
  match steps with
  | 0 => failPast .endOfValue
  | steps + 1 =>
    match ← peekSolid with
    | none => failPast .endOfValue
    | some '[' => return .array (← items steps (← enter depth) true [])
    | some '\x7b' => return .object (← members steps (← enter depth) true [])
    | some c => scalar c

/-- The elements from here to the closing bracket; `done` are those before, the
last one first. -/
def items (steps depth : Nat) (first : Bool) (done : List Value) : Scan (List Value) := do
  match steps with
  | 0 => failPast .endOfList
  | steps + 1 =>
    if ← atElement first then
      let v ← value steps depth
      items steps depth false (v :: done)
    else
      skip
      return done.reverse

/-- The members from here to the closing brace, after those in `done`. A key that
came before keeps its place and gets the new value. -/
def members (steps depth : Nat) (first : Bool) (done : Members) : Scan Members := do
  match steps with
  | 0 => failPast .endOfObject
  | steps + 1 =>
    if ← atKey first then
      let key ← string
      colon
      let v ← value steps depth
      members steps depth false (Assoc.put key v done)
    else
      skip
      return done

end

/-! ### Passing a value

A value that nobody asked for is only checked for its form: its numbers may be
too large, its codes may be halves of pairs, and it may nest deeper. -/

/-- Passes a string literal, the reader standing behind its opening quote. -/
def passLiteral (place : Place) : List Char → Except Failure Cursor
  | [] => .error ⟨.endOfString, place⟩
  | '\\' :: [] => .error ⟨.endOfString, place.after '\\'⟩
  | '\\' :: c :: rest =>
    let next := place.after '\\'
    if c = 'u' then
      if (hexCode? rest).isSome then passLiteral (next.after c) rest
      else .error (hexFailure (next.after c) rest)
    else if c ∈ ['"', '\\', '/', 'b', 'f', 'n', 'r', 't'] then passLiteral (next.after c) rest
    else .error ⟨.badEscape, next.pastByte (c :: rest)⟩
  | c :: rest =>
    if c = '"' then .ok ⟨rest, place.after c⟩
    else if c.toNat < 0x20 then .error ⟨.controlCharacter, place⟩
    else passLiteral (place.after c) rest

def passString : Scan Unit := do
  skip
  let c ← get
  set (← passLiteral c.place c.rest)

def passExponent : Scan Unit := do
  skip
  match ← peek with
  | some '+' | some '-' => skip
  | _ => pure ()
  match ← peek with
  | none => failHere .badNumber
  | some c => if !c.isDigit then failPast .badNumber
  let _ ← digits

/-- Passes a number behind its sign. -/
def passNumber : Scan Unit := do
  match ← peek with
  | none => failHere .badNumber
  | some '0' =>
    skip
    if ((← peek).any Char.isDigit) then failPast .badNumber
  | some c =>
    if !c.isDigit then failPast .badNumber
    let _ ← digits
  match ← peek with
  | some '.' =>
    skip
    let run ← digits
    if run.isEmpty then failPast .badNumber
    match ← peek with
    | some 'e' | some 'E' => passExponent
    | _ => pure ()
  | some 'e' | some 'E' => passExponent
  | _ => pure ()

/-- Passes a scalar, the reader standing at its first character `c`. -/
def passScalar (c : Char) : Scan Unit := do
  match c with
  | '-' =>
    skip
    passNumber
  | '"' => passString
  | _ => if c.isDigit then passNumber else discard (scalar c)

/-- Goes on behind a value inside the containers `opened`, the innermost first,
up to the next value; gives the containers still open. -/
def passClosings (comma : Bool) : Nat → List Char → Scan (List Char)
  | 0, _ => failPast .endOfValue
  | _, [] => return []
  | steps + 1, bracket :: outer => do
    let isList := bracket = '['
    match ← peekSolid with
    | none => failPast (if isList then .endOfList else .endOfObject)
    | some c =>
      if c = ',' && comma then
        skip
        return bracket :: outer
      else if c = (if isList then ']' else '\x7d') then
        skip
        passClosings true steps outer
      else if comma then failPast (if isList then .noListComma else .noObjectComma)
      else return bracket :: outer

/-- Passes a key and its colon. -/
def passKey : Scan Unit := do
  match ← peekSolid with
  | none => failPast .endOfObject
  | some '"' => passString
  | some _ => failPast .keyNotString
  colon

/-- Passes a value inside the containers `opened`, and all that is left of them. -/
def pass : Nat → List Char → Scan Unit
  | 0, _ => failPast .endOfValue
  | steps + 1, opened => do
    let (comma, opened) ← do
      match ← peekSolid with
      | none => failPast .endOfValue
      | some c =>
        if c = '[' || c = '\x7b' then
          skip
          pure (false, c :: opened)
        else
          passScalar c
          pure (true, opened)
    match ← passClosings comma (steps + 1) opened with
    | [] => return
    | bracket :: outer =>
      if bracket = '\x7b' then passKey
      pass steps (bracket :: outer)

end Scan

/-- Reads a whole text. A reader takes fewer than four steps for a character, so
the steps that it is given are enough. -/
def readAll (reader : Nat → Scan α) (text : String) : Except Failure α := do
  let (result, after) ← (reader (4 * text.length + 4)).run ⟨text.toList, .start⟩
  let (next, after) ← Scan.peekSolid.run after
  match next with
  | none => return result
  | some _ => throw ⟨.trailingCharacters, after.place.pastByte after.rest⟩

/-- Reads a text that holds one value. -/
def parse (text : String) : Except Failure Value :=
  readAll (fun steps => Scan.value steps Scan.depthLimit) text

end PageBuilder.Json

import PageBuilder.Json.Failure
/-! Steps of reading a JSON text: blanks, words, string literals and numbers. -/
namespace PageBuilder.Json

open Decimal (Binary64)

/-- Where a reader stands: what is still to be read, and the place reached. -/
structure Cursor where
  rest : List Char
  place : Place
  deriving Repr

/-- A step of a reader, which may stop it. -/
abbrev Scan (α : Type) := StateT Cursor (Except Failure) α

namespace Scan

/-- Stops at the place reached. -/
def failHere (cause : Cause) : Scan α := do
  throw ⟨cause, (← get).place⟩

/-- Stops one byte behind the place reached, which is where a reader that took
the offending byte would stand. -/
def failPast (cause : Cause) : Scan α := do
  let c ← get
  throw ⟨cause, c.place.pastByte c.rest⟩

def peek : Scan (Option Char) := do
  return (← get).rest.head?

/-- Passes a character. -/
def skip : Scan Unit :=
  modify fun c =>
    match c.rest with
    | [] => c
    | x :: rest => ⟨rest, c.place.after x⟩

def isBlank (c : Char) : Bool :=
  c = ' ' || c = '\n' || c = '\t' || c = '\r'

def passWhile (p : Char → Bool) (place : Place) : List Char → Cursor
  | [] => ⟨[], place⟩
  | c :: rest => if p c then passWhile p (place.after c) rest else ⟨c :: rest, place⟩

/-- Passes blanks and shows the next character. -/
def peekSolid : Scan (Option Char) := do
  let c ← get
  set (passWhile isBlank c.place c.rest)
  peek

/-- Reads what is left of `null`, `true` or `false`. -/
def word : List Char → Scan Unit
  | [] => return
  | expected :: rest => do
    match ← peek with
    | none => failHere .endOfValue
    | some c =>
      if c = expected then
        skip
        word rest
      else failPast .noWord

/-! ### String literals -/

def hexDigit? (c : Char) : Option Nat :=
  if c.isDigit then some (c.toNat - 48)
  else if 'a' ≤ c && c ≤ 'f' then some (c.toNat - 87)
  else if 'A' ≤ c && c ≤ 'F' then some (c.toNat - 55)
  else none

/-- The number written by the first four characters. -/
def hexCode? : List Char → Option Nat
  | a :: b :: c :: d :: _ => do
    return (((← hexDigit? a) * 16 + (← hexDigit? b)) * 16 + (← hexDigit? c)) * 16 + (← hexDigit? d)
  | _ => none

/-- The place `count` bytes further on; `none` if the text ends before. -/
def placeBytesOn (place : Place) : Nat → List Char → Option Place
  | 0, _ => some place
  | _, [] => none
  | count + 1, c :: rest =>
    if c.utf8Size ≤ count + 1 then placeBytesOn (place.after c) (count + 1 - c.utf8Size) rest
    else some ⟨place.line, place.column + count + 1⟩
  termination_by _ rest => rest.length

/-- Where a text ends. -/
def lastPlace (place : Place) (rest : List Char) : Place :=
  rest.foldl Place.after place

/-- Why the four bytes behind `\u` are no code. -/
def hexFailure (place : Place) (rest : List Char) : Failure :=
  match placeBytesOn place 4 rest with
  | some later => ⟨.badEscape, later⟩
  | none => ⟨.endOfString, lastPlace place rest⟩

/-- What a literal is being read for between two characters. -/
inductive Mode where
  | plain
  | escape
  /-- Inside a code of which `left` digits are still to come. -/
  | code (left value : Nat) (high : Option Nat)
  /-- Behind the first half of a pair, before its backslash. -/
  | pairSlash (high : Nat)
  /-- Behind the first half of a pair and a backslash. -/
  | pairLetter (high : Nat)

def isHigh (code : Nat) : Bool := 0xd800 ≤ code && code ≤ 0xdbff
def isLow (code : Nat) : Bool := 0xdc00 ≤ code && code ≤ 0xdfff

/-- The characters behind the opening quote up to the closing one. `done` holds
those read so far, the last one first. -/
def literalFrom (mode : Mode) (done : List Char) (place : Place) :
    List Char → Except Failure (List Char × Cursor)
  | [] => .error ⟨.endOfString, place⟩
  | c :: rest =>
    let next := place.after c
    let past := place.pastByte (c :: rest)
    match mode with
    | .plain =>
      if c = '"' then .ok (done.reverse, ⟨rest, next⟩)
      else if c = '\\' then literalFrom .escape done next rest
      else if c.toNat < 0x20 then .error ⟨.controlCharacter, past⟩
      else literalFrom .plain (c :: done) next rest
    | .escape =>
      match c with
      | '"' => literalFrom .plain ('"' :: done) next rest
      | '\\' => literalFrom .plain ('\\' :: done) next rest
      | '/' => literalFrom .plain ('/' :: done) next rest
      | 'b' => literalFrom .plain ('\x08' :: done) next rest
      | 'f' => literalFrom .plain ('\x0c' :: done) next rest
      | 'n' => literalFrom .plain ('\n' :: done) next rest
      | 'r' => literalFrom .plain ('\r' :: done) next rest
      | 't' => literalFrom .plain ('\t' :: done) next rest
      | 'u' =>
        if (hexCode? rest).isSome then literalFrom (.code 4 0 none) done next rest
        else .error (hexFailure next rest)
      | _ => .error ⟨.badEscape, past⟩
    | .code left value high =>
      let code := 16 * value + (hexDigit? c).getD 0
      if 1 < left then literalFrom (.code (left - 1) code high) done next rest
      else
        match high with
        | none =>
          if isLow code then .error ⟨.loneSurrogate, next⟩
          else if isHigh code then literalFrom (.pairSlash code) done next rest
          else literalFrom .plain (Char.ofNat code :: done) next rest
        | some first =>
          if isLow code then
            let joined := 0x10000 + (first - 0xd800) * 0x400 + (code - 0xdc00)
            literalFrom .plain (Char.ofNat joined :: done) next rest
          else .error ⟨.loneSurrogate, next⟩
    | .pairSlash high =>
      if c = '\\' then literalFrom (.pairLetter high) done next rest
      else .error ⟨.unfinishedSurrogate, past⟩
    | .pairLetter high =>
      if c = 'u' then
        if (hexCode? rest).isSome then literalFrom (.code 4 0 (some high)) done next rest
        else .error (hexFailure next rest)
      else .error ⟨.unfinishedSurrogate, past⟩

/-- Reads a string literal, the reader standing at its opening quote. -/
def string : Scan String := do
  skip
  let c ← get
  let (chars, after) ← literalFrom .plain [] c.place c.rest
  set after
  return String.ofList chars

/-! ### Numbers -/

def digitValue (c : Char) : Nat :=
  c.toNat - 48

/-- The digits next in the text, which are passed. -/
def digits : Scan (List Char) := do
  let c ← get
  let run := c.rest.takeWhile Char.isDigit
  set (⟨c.rest.drop run.length, ⟨c.place.line, c.place.column + run.length⟩⟩ : Cursor)
  return run

/-- What is beyond the largest unsigned number of 64 bits. -/
def naturalLimit : Nat := 0x10000000000000000

/-- Appends digits to a number as long as it stays within 64 bits; gives the
number and how many digits were left over. -/
def appendDigits (n : Nat) : List Char → Nat × Nat
  | [] => (n, 0)
  | c :: rest =>
    let longer := 10 * n + digitValue c
    if longer < naturalLimit then appendDigits longer rest else (n, rest.length + 1)

/-- The exponents that are read; a larger one is only passed. -/
def exponentLimit : Nat := 0x80000000

/-- The float read, or the failure that it is too large. -/
def scaled (negative : Bool) (significand : Nat) (scale : Int) : Scan Number := do
  match Decimal.ofScaled significand scale with
  | some x => return .float (if negative then x.negate else x)
  | none => failHere .numberOutOfRange

/-- How many digits of an exponent keep it below the limit. -/
def readableDigits (n : Nat) : List Char → Nat
  | [] => 0
  | c :: rest =>
    let longer := 10 * n + digitValue c
    if longer < exponentLimit then readableDigits longer rest + 1 else 0

/-- Reads an exponent, the reader standing at its mark. -/
def exponent (negative : Bool) (significand : Nat) (scale : Int) : Scan Number := do
  skip
  let down ← do
    match ← peek with
    | some '+' => skip; pure false
    | some '-' => skip; pure true
    | _ => pure false
  match ← peek with
  | none => failHere .endOfValue
  | some c => if !c.isDigit then failPast .badNumber
  let before ← get
  let run ← digits
  let readable := readableDigits 0 run
  if readable < run.length then
    if significand ≠ 0 && !down then
      throw ⟨.numberOutOfRange, ⟨before.place.line, before.place.column + readable + 1⟩⟩
    else scaled negative 0 0
  else
    let value : Int := (run.foldl (fun n c => 10 * n + digitValue c) 0 : Nat)
    scaled negative significand (if down then scale - value else scale + value)

/-- Reads the digits behind a point, the reader standing at the point. -/
def fraction (negative : Bool) (significand : Nat) (scale : Int) : Scan Number := do
  skip
  let run ← digits
  if run.isEmpty then
    match ← peek with
    | none => failHere .endOfValue
    | some _ => failPast .badNumber
  let (all, unread) := appendDigits significand run
  let places : Int := ((run.length - unread : Nat) : Int)
  match ← peek with
  | some 'e' | some 'E' => exponent negative all (scale - places)
  | _ => scaled negative all (scale - places)

/-- An integer within 64 bits. A negative zero or a lower number is a float. -/
def integer (negative : Bool) (n : Nat) : Scan Number :=
  if !negative then return .integer n
  else if 0 < n && n ≤ naturalLimit / 2 then return .integer (-n)
  else scaled true n 0

/-- Reads a number behind its sign. -/
def number (negative : Bool) : Scan Number := do
  match ← peek with
  | none => failHere .endOfValue
  | some c => if !c.isDigit then failPast .badNumber
  let run ← digits
  if run.head? = some '0' && 1 < run.length then
    let c ← get
    throw ⟨.badNumber, ⟨c.place.line, c.place.column + 2 - run.length⟩⟩
  let (n, unread) := appendDigits 0 run
  match ← peek with
  | some '.' => fraction negative n unread
  | some 'e' | some 'E' => exponent negative n unread
  | _ => if unread = 0 then integer negative n else scaled negative n unread

end Scan

end PageBuilder.Json

import PageBuilder.Json.Printer
import PageBuilder.Text.Quoted
/-! Why a value does not have the form it should have, and why a text cannot be
read. Only failures in texts have a place. -/
namespace PageBuilder.Json

/-- What was met instead of the form wanted. -/
inductive Found where
  | null
  | bool (b : Bool)
  | number (n : Number)
  | string (s : String)
  | sequence
  | map
  deriving DecidableEq, Repr

def Value.found : Value → Found
  | .null => .null
  | .bool b => .bool b
  | .number n => .number n
  | .string s => .string s
  | .array _ => .sequence
  | .object _ => .map

def Found.phrase : Found → String
  | .null => "null"
  | .bool true => "boolean `true`"
  | .bool false => "boolean `false`"
  | .number (.integer i) => "integer `" ++ toString i ++ "`"
  | .number (.float x) => "floating point `" ++ x.toText ++ "`"
  | .string s => "string " ++ Text.quoted s
  | .sequence => "sequence"
  | .map => "map"

/-- The form wanted. -/
inductive Want where
  | string
  | sequence
  | map
  | natural
  | nothing
  | record (name : String)
  | choice
  deriving DecidableEq, Repr

def Want.phrase : Want → String
  | .string => "a string"
  | .sequence => "a sequence"
  | .map => "a map"
  | .natural => "u64"
  | .nothing => "unit"
  | .record name => "struct " ++ name
  | .choice => "string or map"

/-- How a value misses the form wanted. -/
inductive Mismatch where
  | wrongType (found : Found) (want : Want)
  | negative (i : Int)
  | severalMembers
  | missing (field : String)
  | duplicate (field : String)
  | unknownChoice (name : String) (choices : List String)
  | tooMany (length : Nat)
  | tooFew (length : Nat) (record : String) (fields : Nat)
  deriving DecidableEq, Repr

def Mismatch.message : Mismatch → String
  | .wrongType found want => "invalid type: " ++ found.phrase ++ ", expected " ++ want.phrase
  | .negative i => "invalid value: integer `" ++ toString i ++ "`, expected " ++ Want.natural.phrase
  | .severalMembers => "invalid value: map, expected map with a single key"
  | .missing field => "missing field `" ++ field ++ "`"
  | .duplicate field => "duplicate field `" ++ field ++ "`"
  | .unknownChoice name choices =>
    "unknown variant `" ++ name ++ "`, expected one of " ++
      ", ".intercalate (choices.map fun c => "`" ++ c ++ "`")
  | .tooMany length =>
    "invalid length " ++ toString length ++ ", expected fewer elements in array"
  | .tooFew length record fields =>
    "invalid length " ++ toString length ++ ", expected " ++ (Want.record record).phrase ++ " with " ++
      toString fields ++ (if fields = 1 then " element" else " elements")

/-- What stops the reading of a text. -/
inductive Cause where
  | endOfValue
  | endOfList
  | endOfObject
  | endOfString
  | noValue
  | noWord
  | noColon
  | noListComma
  | noObjectComma
  | keyNotString
  | trailingComma
  | trailingCharacters
  | badNumber
  | numberOutOfRange
  | badEscape
  | loneSurrogate
  | unfinishedSurrogate
  | controlCharacter
  | tooDeep
  | mismatch (m : Mismatch)
  deriving DecidableEq, Repr

def Cause.message : Cause → String
  | .endOfValue => "EOF while parsing a value"
  | .endOfList => "EOF while parsing a list"
  | .endOfObject => "EOF while parsing an object"
  | .endOfString => "EOF while parsing a string"
  | .noValue => "expected value"
  | .noWord => "expected ident"
  | .noColon => "expected `:`"
  | .noListComma => "expected `,` or `]`"
  | .noObjectComma => "expected `,` or `\x7d`"
  | .keyNotString => "key must be a string"
  | .trailingComma => "trailing comma"
  | .trailingCharacters => "trailing characters"
  | .badNumber => "invalid number"
  | .numberOutOfRange => "number out of range"
  | .badEscape => "invalid escape"
  | .loneSurrogate => "lone leading surrogate in hex escape"
  | .unfinishedSurrogate => "unexpected end of hex escape"
  | .controlCharacter => "control character (\\u0000-\\u001F) found while parsing a string"
  | .tooDeep => "recursion limit exceeded"
  | .mismatch m => m.message

/-- A place in a text: the line, from 1, and the number of its bytes passed. -/
structure Place where
  line : Nat
  column : Nat
  deriving DecidableEq, Repr

def Place.start : Place := ⟨1, 0⟩

/-- The place behind a character. -/
def Place.after (place : Place) (c : Char) : Place :=
  if c = '\n' then ⟨place.line + 1, 0⟩ else ⟨place.line, place.column + c.utf8Size⟩

/-- One byte further on in a text that goes on with `rest`. -/
def Place.pastByte (place : Place) (rest : List Char) : Place :=
  match rest with
  | [] => place
  | '\n' :: _ => ⟨place.line + 1, 0⟩
  | _ :: _ => ⟨place.line, place.column + 1⟩

structure Failure where
  cause : Cause
  place : Place
  deriving DecidableEq, Repr

def Failure.message (failure : Failure) : String :=
  failure.cause.message ++ " at line " ++ toString failure.place.line ++ " column " ++
    toString failure.place.column

end PageBuilder.Json

import PageBuilder.Decimal.Shortest
import PageBuilder.Json.Value
import PageBuilder.Text.Lines
/-! The text of JSON values: without any space, or indented by two spaces. -/
namespace PageBuilder.Json

/-- The escape of a character inside a literal. Only the double quote, the
backslash and the controls below U+0020 have one. -/
def escapeChar (c : Char) : List Char :=
  match c with
  | '"' => ['\\', '"']
  | '\\' => ['\\', '\\']
  | '\x08' => ['\\', 'b']
  | '\x0c' => ['\\', 'f']
  | '\n' => ['\\', 'n']
  | '\r' => ['\\', 'r']
  | '\t' => ['\\', 't']
  | _ =>
    if c.toNat < 0x20 then
      ['\\', 'u', '0', '0', Nat.digitChar (c.toNat / 16), Nat.digitChar (c.toNat % 16)]
    else [c]

/-- The literal of a text, quotes included. -/
def literalChars (text : List Char) : List Char :=
  '"' :: (text.flatMap escapeChar ++ ['"'])

def literal (text : String) : String :=
  String.ofList (literalChars text.toList)

def Number.toText : Number → String
  | .integer i => toString i
  | .float x => x.toText

mutual

/-- The text without any space. -/
def Value.compact : Value → String
  | .null => "null"
  | .bool true => "true"
  | .bool false => "false"
  | .number n => n.toText
  | .string s => literal s
  | .array items => "[" ++ ",".intercalate (compactItems items) ++ "]"
  | .object members => "\x7b" ++ ",".intercalate (compactMembers members) ++ "\x7d"

def compactItems : List Value → List String
  | [] => []
  | v :: rest => v.compact :: compactItems rest

def compactMembers : Members → List String
  | [] => []
  | (k, v) :: rest => (literal k ++ ":" ++ v.compact) :: compactMembers rest

end

/-- Entries on lines of their own, one step further in than the brackets. -/
def bracketed (opening closing : String) (depth : Nat) (entries : List String) : String :=
  if entries.isEmpty then opening ++ closing
  else
    let inner := "\n" ++ Text.indent (depth + 1)
    opening ++ inner ++ ("," ++ inner).intercalate entries ++ "\n" ++ Text.indent depth ++ closing

mutual

def Value.prettyAt (depth : Nat) : Value → String
  | .array items => bracketed "[" "]" depth (prettyItems (depth + 1) items)
  | .object members => bracketed "\x7b" "\x7d" depth (prettyMembers (depth + 1) members)
  | v => v.compact

def prettyItems (depth : Nat) : List Value → List String
  | [] => []
  | v :: rest => v.prettyAt depth :: prettyItems depth rest

def prettyMembers (depth : Nat) : Members → List String
  | [] => []
  | (k, v) :: rest => (literal k ++ ": " ++ v.prettyAt depth) :: prettyMembers depth rest

end

/-- The text with one entry a line. -/
def Value.pretty (v : Value) : String :=
  v.prettyAt 0

end PageBuilder.Json

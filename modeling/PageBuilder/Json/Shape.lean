import PageBuilder.Json.Parser
/-! The form that stored data must have, and reading by it. A record is written as
an object, or as an array of its fields in their order. What is read is a value
in which every record is an object of its known fields; the types of the library
are then taken from it member by member. -/
namespace PageBuilder.Json

mutual

inductive Shape where
  /-- Any value. -/
  | any
  | string
  /-- An unsigned number of 64 bits. -/
  | natural
  /-- The shape or null. -/
  | nullable (shape : Shape)
  | list (shape : Shape)
  /-- An object whose members are texts. -/
  | texts
  /-- One of some names, or an object of one member with the name as key and null. -/
  | choice (names : List String)
  | record (name : String) (fields : List Field)

/-- A field of a record. An optional one may be missing. -/
inductive Field where
  | required (name : String) (shape : Shape)
  | optional (name : String) (shape : Shape)

end

namespace Field

def name : Field → String
  | .required name _ => name
  | .optional name _ => name

def shape : Field → Shape
  | .required _ shape => shape
  | .optional _ shape => shape

def isRequired : Field → Bool
  | .required _ _ => true
  | .optional _ _ => false

end Field

/-- The first required field that is not among the members. -/
def firstMissing? (fields : List Field) (members : Members) : Option String :=
  (fields.find? fun f => f.isRequired && (Assoc.get? f.name members).isNone).map Field.name

def wrongType (v : Value) (want : Want) : Except Mismatch α :=
  .error (.wrongType v.found want)

def conformString (v : Value) : Except Mismatch Value :=
  match v with
  | .string s => .ok (.string s)
  | v => wrongType v .string

def conformNatural (v : Value) : Except Mismatch Value :=
  match v with
  | .number (.integer i) => if i < 0 then .error (.negative i) else .ok v
  | v => wrongType v .natural

def conformTexts (v : Value) : Except Mismatch Value :=
  match v with
  | .object members => do
    return .object (← members.mapM fun (k, v) => do return (k, ← conformString v))
  | v => wrongType v .map

def conformChoice (names : List String) (v : Value) : Except Mismatch Value :=
  match v with
  | .string s => if s ∈ names then .ok (.string s) else .error (.unknownChoice s names)
  | .object [(s, content)] =>
    if s ∈ names then
      match content with
      | .null => .ok (.string s)
      | content => wrongType content .nothing
    else .error (.unknownChoice s names)
  | .object _ => .error .severalMembers
  | v => wrongType v .choice

mutual

/-- The value in its plain form, or the first thing that misses the shape. -/
def Shape.conform : Shape → Value → Except Mismatch Value
  | .any, v => .ok v
  | .string, v => conformString v
  | .natural, v => conformNatural v
  | .nullable shape, v => if v.isNull then .ok .null else shape.conform v
  | .list shape, v =>
    match v with
    | .array items => do return .array (← items.mapM fun item => shape.conform item)
    | v => wrongType v .sequence
  | .texts, v => conformTexts v
  | .choice names, v => conformChoice names v
  | .record name fields, v =>
    match v with
    | .object members => do
      let known ← members.filterMapM fun (k, v) => conformMember fields k v
      match firstMissing? fields known with
      | some field => throw (.missing field)
      | none => return .object known
    | .array items => do
      return .object (← conformParts name fields fields.length items.length 0 items)
    | v => wrongType v (.record name)

/-- A member by the field of its name; members without a field are left out. -/
def conformMember : List Field → String → Value → Except Mismatch (Option (String × Value))
  | [], _, _ => .ok none
  | .required name shape :: rest, k, v =>
    if name = k then do return some (k, ← shape.conform v) else conformMember rest k v
  | .optional name shape :: rest, k, v =>
    if name = k then do return some (k, ← shape.conform v) else conformMember rest k v

/-- The elements of an array by the fields in their order, `taken` of which were
read before. -/
def conformParts (record : String) :
    List Field → (size length taken : Nat) → List Value → Except Mismatch Members
  | [], _, length, _, items => if items.isEmpty then .ok [] else .error (.tooMany length)
  | .required name shape :: rest, size, length, taken, items =>
    match items with
    | [] => .error (.tooFew taken record size)
    | item :: items => do
      let v ← shape.conform item
      return (name, v) :: (← conformParts record rest size length (taken + 1) items)
  | .optional name shape :: rest, size, length, taken, items =>
    match items with
    | [] => conformParts record rest size length (taken + 1) []
    | item :: items => do
      let v ← shape.conform item
      return (name, v) :: (← conformParts record rest size length (taken + 1) items)

end

end PageBuilder.Json

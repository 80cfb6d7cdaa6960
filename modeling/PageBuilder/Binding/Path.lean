import PageBuilder.Json.Value
import PageBuilder.Text.Digit
import PageBuilder.Text.Pieces
/-! Paths into data, such as `user.name` and `items[0].title`: listing those of a
document, and looking one up. -/
namespace PageBuilder.Binding

open Json (Value Members)

/-! ### Listing -/

def join (before key : String) : String :=
  if before.isEmpty then key else before ++ "." ++ key

mutual

/-- The paths below `before`: one for each member, followed by those inside it. Of
a list only the first element is looked into, and only if it is an object. -/
def fieldsBelow (before : String) : Value → List String
  | .object members => fieldsOf before members
  | _ => []

def fieldsOf (before : String) : Members → List String
  | [] => []
  | (key, v) :: rest =>
    let path := join before key
    (path ::
      match v with
      | .array (.object first :: _) => fieldsOf (path ++ "[0]") first
      | .object inner => fieldsOf path inner
      | _ => []) ++ fieldsOf before rest

end

/-- The paths of a document, each before those inside it. -/
def fields (data : Value) : List String :=
  match data with
  | .array (.object first :: _) => fieldsBelow "0" (.object first)
  | .array _ => []
  | data => fieldsBelow "" data

/-! ### Looking up -/

/-- What stands between two points of a path. The index of `name[index]` is absent
where its digits write no index. -/
inductive Segment where
  | key (text : List Char)
  | indexed (name : List Char) (index : Option Nat)
  deriving DecidableEq, Repr

/-- Indices have 64 bits. -/
def indexLimit : Nat := 0x10000000000000000

def index? (digits : List Char) : Option Nat :=
  (Text.natural? digits).filter (· < indexLimit)

/-- Name and digits of `name[digits]`. The name is not empty and on one line. -/
def splitIndex (segment : List Char) : Option (List Char × List Char) :=
  match segment.reverse with
  | ']' :: back =>
    let digits := back.takeWhile Text.isDecimalDigit
    match back.drop digits.length with
    | '[' :: name =>
      if digits.isEmpty || name.isEmpty || name.contains '\n' then none
      else some (name.reverse, digits.reverse)
    | _ => none
  | _ => none

def Segment.ofText (segment : List Char) : Segment :=
  match splitIndex segment with
  | some (name, digits) => .indexed name (index? digits)
  | none => .key segment

/-- A plus sign may stand before the index of an element. -/
def elementIndex? (text : List Char) : Option Nat :=
  match text with
  | '+' :: digits => index? digits
  | digits => index? digits

/-- One step into a container. A null counts as nothing. -/
def step (v : Value) (segment : Segment) : Option Value :=
  let next :=
    match segment with
    | .key text =>
      match v with
      | .object members => Assoc.get? (String.ofList text) members
      | .array items => (elementIndex? text).bind fun i => items[i]?
      | _ => none
    | .indexed name index =>
      index.bind fun i => (v.member? (String.ofList name)).bind fun inner =>
        inner.items?.bind fun items => items[i]?
  next.filter fun found => !found.isNull

def walk (v : Value) : List (List Char) → Option Value
  | [] => some v
  | segment :: rest => (step v (.ofText segment)).bind fun next => walk next rest

/-- The value at a path; `none` if a step leads nowhere or to null. -/
def lookup (data : Value) (path : String) : Option Value :=
  if path.isEmpty then none else walk data (Text.pieces '.' path.toList)

end PageBuilder.Binding

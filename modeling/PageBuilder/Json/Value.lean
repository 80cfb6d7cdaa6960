import PageBuilder.Assoc
import PageBuilder.Decimal.Binary64
/-! JSON values. Objects keep their members in the order they came; two values
are the same if their canonical forms are, which forget that order and the sign
of zero. -/
namespace PageBuilder.Json

open Decimal (Binary64)

/-- An integer of up to 64 bits, or a number with a point, an exponent or too
many digits. The two are never equal. -/
inductive Number where
  | integer (i : Int)
  | float (x : Binary64)
  deriving DecidableEq, Repr, Inhabited

inductive Value where
  | null
  | bool (b : Bool)
  | number (n : Number)
  | string (s : String)
  | array (items : List Value)
  | object (members : List (String × Value))
  deriving Repr, Inhabited

abbrev Members := List (String × Value)

namespace Value

/-- The member of an object; other values have none. -/
def member? (key : String) : Value → Option Value
  | .object members => Assoc.get? key members
  | _ => none

def string? : Value → Option String
  | .string s => some s
  | _ => none

def items? : Value → Option (List Value)
  | .array items => some items
  | _ => none

def members? : Value → Option Members
  | .object members => some members
  | _ => none

def isNull : Value → Bool
  | .null => true
  | _ => false

def isObject : Value → Bool
  | .object _ => true
  | _ => false

/-- Objects and arrays are the values that data can be looked up in. -/
def isContainer : Value → Bool
  | .object _ => true
  | .array _ => true
  | _ => false

/-! What a member holds, with a fallback where it is absent or of another type. -/

def textOr (fallback key : String) (v : Value) : String :=
  ((v.member? key).bind string?).getD fallback

def textAt (key : String) (v : Value) : String :=
  v.textOr "" key

def textAt? (key : String) (v : Value) : Option String :=
  (v.member? key).bind string?

def itemsAt (key : String) (v : Value) : List Value :=
  ((v.member? key).bind items?).getD []

def valueAt (key : String) (v : Value) : Value :=
  (v.member? key).getD .null

theorem itemsAt_of_member? {key : String} {v : Value} {items : List Value}
    (h : v.member? key = some (.array items)) : v.itemsAt key = items := by
  simp [itemsAt, h, items?]

end Value

/-- Induction through the elements of arrays and the members of objects. -/
@[elab_as_elim] theorem Value.induction {P : Value → Prop} (null : P .null)
    (bool : ∀ b, P (.bool b)) (number : ∀ n, P (.number n)) (string : ∀ s, P (.string s))
    (array : ∀ items, (∀ v ∈ items, P v) → P (.array items))
    (object : ∀ members : Members, (∀ m ∈ members, P m.2) → P (.object members)) : ∀ v, P v
  | .null => null
  | .bool b => bool b
  | .number n => number n
  | .string s => string s
  | .array items => array items fun v _ => induction null bool number string array object v
  | .object members =>
    object members fun m _ => induction null bool number string array object m.2
termination_by v => sizeOf v
decreasing_by
  · have := List.sizeOf_lt_of_mem ‹v ∈ items›
    simp only [Value.array.sizeOf_spec]
    omega
  · have := List.sizeOf_lt_of_mem ‹m ∈ members›
    rcases m with ⟨k, v⟩
    simp only [Prod.mk.sizeOf_spec] at this
    simp only [Value.object.sizeOf_spec]
    omega

/-! ### Sameness -/

def Number.canonical : Number → Number
  | .integer i => .integer i
  | .float x => .float x.canonical

/-- Puts a member into a list in the order of keys; it takes the place of one
with its key. -/
def insertMember (key : String) (value : Value) : Members → Members
  | [] => [(key, value)]
  | (k, v) :: rest =>
    if key = k then (key, value) :: rest
    else if key < k then (key, value) :: (k, v) :: rest
    else (k, v) :: insertMember key value rest

mutual

/-- Members in the order of their keys, and one zero. -/
def Value.canonical : Value → Value
  | .number n => .number n.canonical
  | .array items => .array (canonicalItems items)
  | .object members => .object (canonicalMembers members)
  | v => v

def canonicalItems : List Value → List Value
  | [] => []
  | v :: rest => v.canonical :: canonicalItems rest

def canonicalMembers : Members → Members
  | [] => []
  | (k, v) :: rest => insertMember k v.canonical (canonicalMembers rest)

end

mutual

def decideValue (a b : Value) : Decidable (a = b) :=
  match a, b with
  | .null, .null => isTrue rfl
  | .bool x, .bool y => decidable_of_iff (x = y) (by simp)
  | .number x, .number y => decidable_of_iff (x = y) (by simp)
  | .string x, .string y => decidable_of_iff (x = y) (by simp)
  | .array x, .array y => @decidable_of_iff _ (x = y) (by simp) (decideItems x y)
  | .object x, .object y => @decidable_of_iff _ (x = y) (by simp) (decideMembers x y)
  | .null, .bool _ | .null, .number _ | .null, .string _ | .null, .array _ | .null, .object _
  | .bool _, .null | .bool _, .number _ | .bool _, .string _ | .bool _, .array _
  | .bool _, .object _ | .number _, .null | .number _, .bool _ | .number _, .string _
  | .number _, .array _ | .number _, .object _ | .string _, .null | .string _, .bool _
  | .string _, .number _ | .string _, .array _ | .string _, .object _ | .array _, .null
  | .array _, .bool _ | .array _, .number _ | .array _, .string _ | .array _, .object _
  | .object _, .null | .object _, .bool _ | .object _, .number _ | .object _, .string _
  | .object _, .array _ => isFalse nofun

def decideItems : (a b : List Value) → Decidable (a = b)
  | [], [] => isTrue rfl
  | [], _ :: _ => isFalse nofun
  | _ :: _, [] => isFalse nofun
  | v :: vs, w :: ws =>
    have := decideValue v w
    have := decideItems vs ws
    decidable_of_iff (v = w ∧ vs = ws) (by simp)

def decideMembers : (a b : Members) → Decidable (a = b)
  | [], [] => isTrue rfl
  | [], _ :: _ => isFalse nofun
  | _ :: _, [] => isFalse nofun
  | (k, v) :: vs, (l, w) :: ws =>
    have := decideValue v w
    have := decideMembers vs ws
    decidable_of_iff ((k = l ∧ v = w) ∧ vs = ws) (by simp)

end

instance : DecidableEq Value := decideValue

/-- Equality up to the order of members and the sign of zero. -/
def Value.same (a b : Value) : Bool :=
  a.canonical = b.canonical

theorem Value.same_iff {a b : Value} : a.same b = true ↔ a.canonical = b.canonical := by
  simp [Value.same]

end PageBuilder.Json

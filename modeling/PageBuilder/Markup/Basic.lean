/-! Markup trees. Generators build them from constants and from texts, and a text
enters a tree only where the writer escapes it. -/
namespace PageBuilder.Markup

inductive AttrValue where
  /-- A constant of the library. -/
  | fixed (value : String)
  | text (value : String)
  | number (value : Nat)
  /-- An expression between braces; HTML has no such attributes. -/
  | expr (source : String)
  /-- The name alone. -/
  | flag
  deriving DecidableEq, Repr

abbrev Attrs := List (String × AttrValue)

inductive Node where
  | element (tag : String) (attrs : Attrs) (children : List Node)
  | text (text : String)
  | comment (text : String)
  /-- Lines of the library's own that are written as they are. -/
  | raw (source : String)
  deriving Repr

namespace Node

def isText : Node → Bool
  | .text _ => true
  | _ => false

mutual

/-- The elements of a tree, each before those inside it, by tag and attributes. -/
def walk : Node → List (String × Attrs)
  | .element tag attrs children => (tag, attrs) :: walkAll children
  | _ => []

def walkAll : List Node → List (String × Attrs)
  | [] => []
  | node :: rest => walk node ++ walkAll rest

end

theorem walkAll_eq_flatMap (nodes : List Node) : walkAll nodes = nodes.flatMap walk := by
  induction nodes with
  | nil => rfl
  | cons node rest ih => rw [walkAll, ih, List.flatMap_cons]

end Node

/-! ### Attributes -/

def classAttr (value : String) : String × AttrValue := ("class", .fixed value)
def fixedAttr (name value : String) : String × AttrValue := (name, .fixed value)
def textAttr (name value : String) : String × AttrValue := (name, .text value)
def numberAttr (name : String) (value : Nat) : String × AttrValue := (name, .number value)
def exprAttr (name source : String) : String × AttrValue := (name, .expr source)
def flagAttr (name : String) : String × AttrValue := (name, .flag)

/-! ### Elements -/

def el (tag : String) (attrs : Attrs) (children : List Node) : Node :=
  .element tag attrs children

/-- An element that holds one text. -/
def label (tag : String) (attrs : Attrs) (text : String) : Node :=
  .element tag attrs [.text text]

end PageBuilder.Markup

/-! The palette: the kinds of blocks a page is put together from. -/
namespace PageBuilder.Block

inductive Kind where
  | hero
  | stats
  | workflow
  | cta
  | form
  deriving DecidableEq, Repr, Inhabited

namespace Kind

/-- All kinds, in the order of the palette. -/
def all : List Kind := [.hero, .stats, .workflow, .cta, .form]

/-- The name under which a canvas stores a block of the kind. -/
def id : Kind → String
  | .hero => "hero"
  | .stats => "stats"
  | .workflow => "workflow"
  | .cta => "cta"
  | .form => "form"

/-- The kind stored under a name. -/
def ofId? (id : String) : Option Kind :=
  all.find? fun kind => kind.id = id

@[simp] theorem ofId?_id (kind : Kind) : ofId? kind.id = some kind := by
  cases kind <;> decide

end Kind

end PageBuilder.Block

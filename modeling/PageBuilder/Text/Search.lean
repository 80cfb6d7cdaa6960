/-! Whether a text occurs in another one. -/
namespace PageBuilder.Text

def occursFrom (part : List Char) : List Char → Bool
  | [] => part.isEmpty
  | c :: rest => part.isPrefixOf (c :: rest) || occursFrom part rest

def contains (text part : String) : Bool :=
  occursFrom part.toList text.toList

end PageBuilder.Text

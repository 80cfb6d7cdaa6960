/-! Text that is put inside a comment must not end it. Spaces are put where the
text would hold a closing delimiter, or begin one. -/
namespace PageBuilder.Text

/-- A space between any two hyphens that stand side by side. -/
def partHyphens : List Char → List Char
  | '-' :: '-' :: rest => '-' :: ' ' :: partHyphens ('-' :: rest)
  | c :: rest => c :: partHyphens rest
  | [] => []

/-- A space between an asterisk and a slash after it. -/
def partStarSlash : List Char → List Char
  | '*' :: '/' :: rest => '*' :: ' ' :: '/' :: partStarSlash rest
  | c :: rest => c :: partStarSlash rest
  | [] => []

/-- For `<!-- … -->`, which `>` may end as well. -/
def htmlCommentChars (text : List Char) : List Char :=
  partHyphens (text.flatMap fun c => if c = '>' then ['&', 'g', 't', ';'] else [c])

def htmlComment (text : String) : String :=
  String.ofList (htmlCommentChars text.toList)

/-- For `/* … */`. -/
def blockComment (text : String) : String :=
  String.ofList (partStarSlash text.toList)

end PageBuilder.Text

/-! Slugs: lower-case ASCII names for archives and packages. -/
namespace PageBuilder.Text

/-- Letters and digits, in lower case; `gap` says that something else was passed
since the last of them, and `started` that there was one. -/
def slugChars (started gap : Bool) : List Char → List Char
  | [] => []
  | c :: rest =>
    if c.isAlphanum then
      if started && gap then '-' :: c.toLower :: slugChars true false rest
      else c.toLower :: slugChars true false rest
    else slugChars started true rest

/-- A text without any ASCII letter or digit is called `project`. -/
def slug (text : String) : String :=
  match slugChars false false text.toList with
  | [] => "project"
  | chars => String.ofList chars

end PageBuilder.Text

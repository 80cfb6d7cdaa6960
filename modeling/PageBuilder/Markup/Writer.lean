import PageBuilder.Json.Printer
import PageBuilder.Markup.Basic
import PageBuilder.Text.Comment
import PageBuilder.Text.Escape
import PageBuilder.Text.Lines
/-! The text of markup: in HTML, or in JSX, where texts are string literals between
braces. An element is on one line if it holds nothing but texts; other children
are on lines of their own, two spaces further in. -/
namespace PageBuilder.Markup

inductive Dialect where
  | html
  | jsx
  deriving DecidableEq, Repr

/-- HTML elements that are written without a closing tag if they are empty. -/
def voidTags : List String :=
  ["area", "base", "br", "col", "embed", "hr", "img", "input", "link", "meta", "source",
    "track", "wbr"]

def braced (source : String) : String :=
  "\x7b" ++ source ++ "\x7d"

def quotedAttr (value : String) : String :=
  "\"" ++ value ++ "\""

namespace Dialect

def text (dialect : Dialect) (text : String) : String :=
  match dialect with
  | .html => Text.escape text
  | .jsx => braced (Json.literal text)

def comment (dialect : Dialect) (text : String) : String :=
  match dialect with
  | .html => "<!-- " ++ Text.htmlComment text ++ " -->"
  | .jsx => braced ("/* " ++ Text.blockComment text ++ " */")

/-- JSX has names of its own for two attributes. -/
def attrName (dialect : Dialect) (name : String) : String :=
  match dialect with
  | .html => name
  | .jsx => if name = "class" then "className" else if name = "for" then "htmlFor" else name

/-- Whether a constant may stand between double quotes in JSX. -/
def isPlainAttr (value : String) : Bool :=
  value.toList.all fun c => c ∉ ['"', '\\', '\x7b', '\x7d', '\n']

/-- An attribute with the space before it; nothing where the dialect lacks it. -/
def attr (dialect : Dialect) (name : String) (value : AttrValue) : String :=
  let given (content : String) := " " ++ dialect.attrName name ++ "=" ++ content
  match value, dialect with
  | .flag, _ => " " ++ dialect.attrName name
  | .fixed v, .html => given (quotedAttr (Text.escape v))
  | .fixed v, .jsx =>
    given (if isPlainAttr v then quotedAttr v else braced (Json.literal v))
  | .text v, .html => given (quotedAttr (Text.escape v))
  | .text v, .jsx => given (braced (Json.literal v))
  | .number n, .html => given (quotedAttr (toString n))
  | .number n, .jsx => given (braced (toString n))
  | .expr _, .html => ""
  | .expr source, .jsx => given (braced source)

/-- What stands in an opening tag between its brackets. -/
def opening (dialect : Dialect) (tag : String) (attrs : Attrs) : String :=
  tag ++ String.join (attrs.map fun a => dialect.attr a.1 a.2)

/-- An element without children. -/
def childless (dialect : Dialect) (tag : String) (attrs : Attrs) : String :=
  let opening := dialect.opening tag attrs
  match dialect with
  | .html =>
    if tag ∈ voidTags then "<" ++ opening ++ ">" else "<" ++ opening ++ "></" ++ tag ++ ">"
  | .jsx => "<" ++ opening ++ " />"

/-- The texts among the nodes, written next to one another. -/
def inlineTexts (dialect : Dialect) : List Node → String
  | [] => ""
  | .text t :: rest => dialect.text t ++ inlineTexts dialect rest
  | _ :: rest => inlineTexts dialect rest

end Dialect

/-- Lines that are written as they are; an empty one is not indented. -/
def rawLines (depth : Nat) (source : String) : List String :=
  (Text.lines source).map fun line => if line.isEmpty then "" else Text.indent depth ++ line

mutual

def writeNode (dialect : Dialect) (depth : Nat) : Node → List String
  | .text t => [Text.indent depth ++ dialect.text t]
  | .comment t => [Text.indent depth ++ dialect.comment t]
  | .raw source => rawLines depth source
  | .element tag attrs children =>
    if children.isEmpty then [Text.indent depth ++ dialect.childless tag attrs]
    else if children.all Node.isText then
      [Text.indent depth ++ "<" ++ dialect.opening tag attrs ++ ">" ++ dialect.inlineTexts children ++
        "</" ++ tag ++ ">"]
    else
      (Text.indent depth ++ "<" ++ dialect.opening tag attrs ++ ">") ::
        writeNodes dialect (depth + 1) children ++ [Text.indent depth ++ "</" ++ tag ++ ">"]

def writeNodes (dialect : Dialect) (depth : Nat) : List Node → List String
  | [] => []
  | node :: rest => writeNode dialect depth node ++ writeNodes dialect depth rest

end

/-- The text of nodes, indented by two spaces for each step of `depth`. -/
def render (nodes : List Node) (dialect : Dialect) (depth : Nat) : String :=
  Text.unlines (writeNodes dialect depth nodes)

end PageBuilder.Markup

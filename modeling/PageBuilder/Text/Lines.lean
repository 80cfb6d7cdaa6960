/-! Texts as lists of lines. -/
namespace PageBuilder.Text

/-- Drops one carriage return from the end of a line that ended in a line feed. -/
def dropReturn (line : List Char) : List Char :=
  if line.getLast? = some '\r' then line.dropLast else line

/-- The lines of a text, `current` being what was read of the first one. A line
feed ends a line, also the last one, and takes a carriage return before it along. -/
def splitLines (current : List Char) : List Char → List (List Char)
  | [] => if current.isEmpty then [] else [current.reverse]
  | c :: rest =>
    if c = '\n' then dropReturn current.reverse :: splitLines [] rest
    else splitLines (c :: current) rest

def lines (text : String) : List String :=
  (splitLines [] text.toList).map String.ofList

/-- What stands before a line at a depth: two spaces for each step. -/
def indent (depth : Nat) : String :=
  String.ofList (List.replicate (2 * depth) ' ')

/-- The lines with a line feed between neighbours. -/
def unlines (lines : List String) : String :=
  String.intercalate "\n" lines

/-- The lines with a line feed behind each. -/
def document (lines : List String) : String :=
  String.join (lines.map fun line => line ++ "\n")

end PageBuilder.Text

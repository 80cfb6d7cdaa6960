/-! White space as Unicode's `White_Space` property has it, and texts that hold
nothing else. -/
namespace PageBuilder.Text

/-- The code points of `White_Space`; the zero-width space and the byte order
mark do not belong to it. -/
def isSpace (c : Char) : Bool :=
  let n := c.toNat
  (0x09 ≤ n && n ≤ 0x0d) || n = 0x20 || n = 0x85 || n = 0xa0 || n = 0x1680 ||
    (0x2000 ≤ n && n ≤ 0x200a) || n = 0x2028 || n = 0x2029 || n = 0x202f || n = 0x205f ||
    n = 0x3000

/-- Nothing is left once white space is trimmed from both ends. -/
def isBlank (text : String) : Bool :=
  text.toList.all isSpace

end PageBuilder.Text

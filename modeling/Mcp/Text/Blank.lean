/-!
White space as the Unicode property lists it, and trimming by it.
-/

namespace Mcp.Text

/-- The characters with the property `White_Space`. -/
def isBlank (c : Char) : Bool :=
  let n := c.toNat
  (0x09 ≤ n && n ≤ 0x0D) || n == 0x20 || n == 0x85 || n == 0xA0 || n == 0x1680 ||
    (0x2000 ≤ n && n ≤ 0x200A) || n == 0x2028 || n == 0x2029 || n == 0x202F || n == 0x205F ||
    n == 0x3000

/-- The characters without the white space at their start. -/
def trimStart (cs : List Char) : List Char := cs.dropWhile isBlank

/-- The characters without the white space at either end. -/
def trim (cs : List Char) : List Char := (trimStart (trimStart cs).reverse).reverse

/-- The text without the white space at either end. -/
def trimmed (s : String) : String := String.ofList (trim s.toList)

/-- Whether a text holds nothing but white space. -/
def isBlankText (s : String) : Bool := s.toList.all isBlank

end Mcp.Text

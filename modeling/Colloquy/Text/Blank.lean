import Colloquy.Text.Ranges

/-!
# White space and trimming

White space is Unicode's White_Space property: twenty-five characters, of which line feed and
carriage return are two. Trimming removes it from one end or from both.
-/

namespace Colloquy.Text

/-- The code points with the White_Space property. -/
def blankRanges : RangeTable :=
  [(0x09, 0x0D), (0x20, 0x20), (0x85, 0x85), (0xA0, 0xA0), (0x1680, 0x1680),
    (0x2000, 0x200A), (0x2028, 0x2029), (0x202F, 0x202F), (0x205F, 0x205F), (0x3000, 0x3000)]

/-- Whether the character is white space. -/
def isBlank (c : Char) : Bool := blankRanges.contains c

/-- Remove the longest end of the list whose members all satisfy `p`. -/
def dropEndWhile {α : Type} (p : α → Bool) (items : List α) : List α :=
  (items.reverse.dropWhile p).reverse

/-- Remove leading white space. -/
def trimStart (cs : List Char) : List Char := cs.dropWhile isBlank

/-- Remove trailing white space. -/
def trimEnd (cs : List Char) : List Char := dropEndWhile isBlank cs

/-- Remove white space at both ends. -/
def trim (cs : List Char) : List Char := trimEnd (trimStart cs)

end Colloquy.Text

import ProxyHeader.Text.Ranges

/-!
# White space

White space in all scripts: the controls that move the print position, the space, and the
spaces and separators of other widths and uses.
-/

namespace ProxyHeader

namespace Space

/-- The ranges of white space, as of Unicode 17. -/
def ranges : List (Nat × Nat) :=
  [(0x9, 0xD), (0x20, 0x20), (0x85, 0x85), (0xA0, 0xA0), (0x1680, 0x1680), (0x2000, 0x200A),
   (0x2028, 0x2029), (0x202F, 0x202F), (0x205F, 0x205F), (0x3000, 0x3000)]

/-- The ranges are in ascending order and do not overlap. -/
theorem ascend_ranges : Ranges.ascend 0 ranges = true := by
  decide

end Space

/-- Whether a character is white space. -/
def isSpace (c : Char) : Bool :=
  Ranges.contain Space.ranges c

/-- A text without the white space in front and at the end. -/
def Space.trim (cs : List Char) : List Char :=
  ((cs.dropWhile isSpace).reverse.dropWhile isSpace).reverse

end ProxyHeader

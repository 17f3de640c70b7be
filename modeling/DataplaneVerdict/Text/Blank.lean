/-!
# `Text.Blank` — blank characters

The blank characters are the white-space and line-terminator characters of Unicode text processing: the ASCII
controls from tab to carriage return, the space separators, the two line separators and the byte-order mark.

## Contents
- `Text.isBlank`, and `Text.trimList`, which removes blanks at both ends.
-/

namespace DataplaneVerdict.Text

/-- Whether a character is blank. -/
def isBlank (c : Char) : Bool :=
  let n := c.toNat
  (9 ≤ n && n ≤ 13) || n == 0x20 || n == 0xA0 || n == 0x1680 || (0x2000 ≤ n && n ≤ 0x200A) ||
    n == 0x2028 || n == 0x2029 || n == 0x202F || n == 0x205F || n == 0x3000 || n == 0xFEFF

/-- The characters without the blank ones at either end. -/
def trimList (cs : List Char) : List Char :=
  ((cs.dropWhile isBlank).reverse.dropWhile isBlank).reverse

end DataplaneVerdict.Text

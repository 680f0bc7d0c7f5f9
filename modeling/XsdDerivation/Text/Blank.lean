/-!
# Blank characters

The characters with the Unicode property `White_Space`, and removing them from the two ends
of a text.
-/

namespace XsdDerivation.Text

/-- White space: the ASCII blanks, next line, and the spaces and separators of other scripts.
Zero-width spaces and the byte order mark are not blank. -/
def isBlank (c : Char) : Bool :=
  let code := c.toNat
  (0x9 ≤ code && code ≤ 0xD) || code == 0x20 || code == 0x85 || code == 0xA0 ||
    code == 0x1680 || (0x2000 ≤ code && code ≤ 0x200A) || code == 0x2028 || code == 0x2029 ||
    code == 0x202F || code == 0x205F || code == 0x3000

/-- The characters up to the last one that is not blank. -/
def dropTrailingBlanks (s : List Char) : List Char :=
  (s.reverse.dropWhile isBlank).reverse

/-- The characters between the blanks at the two ends. -/
def trim (s : List Char) : List Char :=
  dropTrailingBlanks (s.dropWhile isBlank)

end XsdDerivation.Text

-- White space, in the widest sense: every space and line break of Unicode and the four
-- information separators. Texts are trimmed of it before they are shown.
namespace Facade.Text

/-- Whether a character is white space. -/
def isBlank (c : Char) : Bool :=
  let code := c.toNat
  (0x09 ≤ code && code ≤ 0x0D) || (0x1C ≤ code && code ≤ 0x20) || code == 0x85 || code == 0xA0
    || code == 0x1680 || (0x2000 ≤ code && code ≤ 0x200A) || code == 0x2028 || code == 0x2029
    || code == 0x202F || code == 0x205F || code == 0x3000

/-- The characters without the white space at their end. -/
def trimEnd (chars : List Char) : List Char :=
  (chars.reverse.dropWhile isBlank).reverse

/-- The characters without the white space at both ends. -/
def trim (chars : List Char) : List Char :=
  trimEnd (chars.dropWhile isBlank)

end Facade.Text

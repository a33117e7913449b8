/-! White space in the sense of the Unicode property of that name, and the trimming built on
it. Every place that asks whether an id, a field or a list entry is blank asks it here, so
the catalog, the settings and the contact form agree about what an empty answer is. -/

namespace Vitae.Text

/-- The code points with the Unicode property White_Space. -/
def isBlank (c : Char) : Bool :=
  let n := c.toNat
  (9 ≤ n && n ≤ 13) || n == 0x20 || n == 0x85 || n == 0xA0 || n == 0x1680
    || (0x2000 ≤ n && n ≤ 0x200A) || n == 0x2028 || n == 0x2029 || n == 0x202F
    || n == 0x205F || n == 0x3000

/-- Removes the white space at both ends. -/
def trim (cs : List Char) : List Char :=
  ((cs.dropWhile isBlank).reverse.dropWhile isBlank).reverse

/-- A text of nothing but white space, the empty one included. -/
def blank (text : String) : Bool :=
  text.toList.all isBlank

/-- The text without the white space at its ends. -/
def trimmed (text : String) : String :=
  String.ofList (trim text.toList)

end Vitae.Text

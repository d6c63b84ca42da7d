/-!
White space, as settings and addresses are trimmed of it.

The class is the Unicode property `White_Space`, which is wider than the blanks of the ASCII range: an
ideographic space around a setting is dropped like a tab is.
-/

set_option autoImplicit false

namespace TopicGuard.Text

/-- The characters of the Unicode property `White_Space`. -/
def isBlank (c : Char) : Bool :=
  let n := c.toNat
  (9 ≤ n && n ≤ 13) || n == 0x20 || n == 0x85 || n == 0xA0 || n == 0x1680
    || (0x2000 ≤ n && n ≤ 0x200A) || n == 0x2028 || n == 0x2029 || n == 0x202F || n == 0x205F
    || n == 0x3000

/-- Drops white space from both ends of a list of characters. -/
def trimChars (cs : List Char) : List Char :=
  ((cs.dropWhile isBlank).reverse.dropWhile isBlank).reverse

/-- Drops white space from both ends of a text. -/
def trim (s : String) : String :=
  String.ofList (trimChars s.toList)

/-- A text of white space only, or the empty text. -/
def isAllBlank (s : String) : Bool :=
  s.toList.all isBlank

end TopicGuard.Text

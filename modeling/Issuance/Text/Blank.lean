/-! White space, and texts without it at their ends. -/

namespace Issuance.Text

/-- A character with the Unicode property of white space. -/
def isWhiteSpace (c : Char) : Bool :=
  let code := c.toNat
  (9 ≤ code && code ≤ 13) || code == 0x20 || code == 0x85 || code == 0xA0 || code == 0x1680 ||
    (0x2000 ≤ code && code ≤ 0x200A) || code == 0x2028 || code == 0x2029 || code == 0x202F ||
    code == 0x205F || code == 0x3000

/-- White space or one of the four information separators. -/
def isBlank (c : Char) : Bool := isWhiteSpace c || (28 ≤ c.toNat && c.toNat ≤ 31)

/-- Drops the characters of a class from both ends of a list. -/
def trimList (drop : Char → Bool) (cs : List Char) : List Char :=
  -- The end is cut as the front of the reversed list.
  ((cs.dropWhile drop).reverse.dropWhile drop).reverse

/-- A text without blanks at its ends. -/
def strip (s : String) : String := String.ofList (trimList isBlank s.toList)

end Issuance.Text

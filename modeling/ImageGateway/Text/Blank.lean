-- White space, as Unicode has it, and its removal from the ends of a text.

namespace ImageGateway.Text

/-- The property White_Space of Unicode. -/
def isBlank (c : Char) : Bool :=
  let n := c.toNat
  (0x9 ≤ n && n ≤ 0xD) || n == 0x20 || n == 0x85 || n == 0xA0 || n == 0x1680
    || (0x2000 ≤ n && n ≤ 0x200A) || n == 0x2028 || n == 0x2029 || n == 0x202F || n == 0x205F
    || n == 0x3000

/-- The list without the blanks at its end. -/
def dropBlanksAtEnd (cs : List Char) : List Char := (cs.reverse.dropWhile isBlank).reverse

/-- The text without the blanks at its end. -/
def trimEnd (s : String) : String := String.ofList (dropBlanksAtEnd s.toList)

/-- The text without the blanks at both ends. -/
def trim (s : String) : String := String.ofList (dropBlanksAtEnd (s.toList.dropWhile isBlank))

end ImageGateway.Text

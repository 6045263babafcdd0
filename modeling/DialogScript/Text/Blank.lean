/-!
Blanks: the twenty-nine characters that trimming removes from the ends of a text.
-/

namespace DialogScript.Text

/-- Whether a character is trimmed from the ends of a text. -/
def isBlank (c : Char) : Bool :=
  let n := c.toNat
  (0x09 ≤ n && n ≤ 0x0D) || (0x1C ≤ n && n ≤ 0x20) || n == 0x85 || n == 0xA0 || n == 0x1680
    || (0x2000 ≤ n && n ≤ 0x200A) || n == 0x2028 || n == 0x2029 || n == 0x202F || n == 0x205F
    || n == 0x3000

/-- The characters without those that satisfy `p` at either end. -/
def trimBy (p : Char → Bool) (s : List Char) : List Char :=
  ((s.dropWhile p).reverse.dropWhile p).reverse

/-- A text without the blanks at its ends. -/
def trim (s : String) : String := String.ofList (trimBy isBlank s.toList)

end DialogScript.Text

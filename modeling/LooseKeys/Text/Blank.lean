/-
Module: LooseKeys.Text.Blank
Purpose: White space in the sense of Unicode, and trimming it from both ends of a text.
Main exports: isBlank, trim
-/

namespace LooseKeys.Text

/-- The twenty-five characters with the property `White_Space`. -/
def isBlank (c : Char) : Bool :=
  let n := c.toNat
  (0x9 ≤ n && n ≤ 0xD) || n = 0x20 || n = 0x85 || n = 0xA0 || n = 0x1680
    || (0x2000 ≤ n && n ≤ 0x200A) || n = 0x2028 || n = 0x2029 || n = 0x202F || n = 0x205F
    || n = 0x3000

/-- A list of characters without the blanks at its front. -/
def trimStart (chars : List Char) : List Char := chars.dropWhile isBlank

/-- A list of characters without the blanks at its two ends. -/
def trim (chars : List Char) : List Char :=
  (trimStart (trimStart chars).reverse).reverse

example : trim "\u3000 7\t".toList = ['7'] := by decide

end LooseKeys.Text

/-
Module: LooseKeys.Text.Quoted
Purpose: Texts in double quotes, as messages show a name or a value that was given.
Main exports: quoted
-/
import LooseKeys.Text.NonPrinting

/-!
A quote, a backslash and the four usual control characters have a short escape.  Any other
non-printing character is written by its code point in lower-case hexadecimal without leading
zeros.  Everything else, an apostrophe too, stands for itself.
-/

namespace LooseKeys.Text

/-- How one character is written between double quotes. -/
def quotedChar (c : Char) : List Char :=
  match c with
  | '"' => ['\\', '"']
  | '\\' => ['\\', '\\']
  | '\n' => ['\\', 'n']
  | '\r' => ['\\', 'r']
  | '\t' => ['\\', 't']
  | '\x00' => ['\\', '0']
  | c =>
      if isNonPrinting c then
        ['\\', 'u', '\x7b'] ++ Nat.toDigits 16 c.toNat ++ ['\x7d']
      else [c]

/-- The text between double quotes, with escapes. -/
def quoted (text : String) : String :=
  String.ofList ('"' :: (text.toList.flatMap quotedChar ++ ['"']))

example : quoted "a'b\"\\\n" = "\"a'b\\\"\\\\\\n\"" := by decide +kernel

end LooseKeys.Text

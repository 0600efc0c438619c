/-
Module: LooseKeys.Files
Purpose: The texts of files, as whoever loads settings or definitions asks for them.
Main exports: FileReader, FileReader.text
-/
import LooseKeys.Error

namespace LooseKeys

/-- Gives the text that a path leads to, or says why there is none. -/
abbrev FileReader := String → Except FileFault String

/-- The text of a file that has to be there. -/
def FileReader.text (reader : FileReader) (path : String) : Except CleanupError String :=
  match reader path with
  | .error fault => .error (.config (.unreadable path fault))
  | .ok text => .ok text

end LooseKeys

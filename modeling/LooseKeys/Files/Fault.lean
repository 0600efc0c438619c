/-
Module: LooseKeys.Files.Fault
Purpose: Why the text of a file could not be read.
Main exports: FileFault, FileFault.text
-/

namespace LooseKeys

/-- A reason why a path gives no text. -/
inductive FileFault where
  | notFound
  | notADirectory
  | isADirectory
  | nameTooLong
  | nulInName
  | notUtf8
  /-- Any other answer of the operating system. -/
  | refused (reason : String)
deriving DecidableEq, Repr

namespace FileFault

/-- The report of a fault, with the number the operating system gives it. -/
def text : FileFault → String
  | .notFound => "No such file or directory (os error 2)"
  | .notADirectory => "Not a directory (os error 20)"
  | .isADirectory => "Is a directory (os error 21)"
  | .nameTooLong => "File name too long (os error 36)"
  | .nulInName => "file name contained an unexpected NUL byte"
  | .notUtf8 => "stream did not contain valid UTF-8"
  | .refused reason => reason

end FileFault

end LooseKeys

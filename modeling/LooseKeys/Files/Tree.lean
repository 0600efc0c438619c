/-
Module: LooseKeys.Files.Tree
Purpose: A tree of files below a working directory, and how paths lead through it.
Main exports: FileTree, Place, FileTree.step, FileTree.resolve, FileTree.reader
-/
import LooseKeys.Files
import LooseKeys.Text.Parts

/-!
A path is walked component by component, each of which must stand in a directory.  The fault
that is met first is the one reported, so a name that is too long counts only if the way up to
it exists.  Nothing is known to stand outside the working directory.
-/

namespace LooseKeys

/-- What stands at a place. -/
inductive FileEntry where
  | file (bytes : ByteArray)
  | directory

/-- The entries below a working directory, by the names that lead to them.  A directory that
holds an entry need not be listed itself. -/
structure FileTree where
  entries : List (List (List Char) × FileEntry) := []

/-- A place that a path can lead to. -/
inductive Place where
  /-- The place to which these names lead from the working directory. -/
  | inside (names : List (List Char))
  /-- A directory above the working directory. -/
  | outside
deriving DecidableEq, Repr

/-- The number of bytes of characters in UTF-8. -/
def encodedSize (chars : List Char) : Nat := (String.ofList chars).utf8ByteSize

/-- The greatest number of bytes of a name. -/
def maxNameSize : Nat := 255

/-- The greatest number of bytes of a path. -/
def maxPathSize : Nat := 4095

namespace FileTree

/-- The entry at a place inside, if there is one. -/
def at? (tree : FileTree) (names : List (List Char)) : Option FileEntry :=
  match tree.entries.lookup names with
  | some entry => some entry
  | none =>
      if names.isEmpty || tree.entries.any (fun entry => names.isPrefixOf entry.1) then
        some .directory
      else none

/-- Whether other entries can stand in the one at a place. -/
def isDirectory (tree : FileTree) : Place → Bool
  | .outside => true
  | .inside names =>
      match tree.at? names with
      | some .directory => true
      | _ => false

/-- The place to which one more component leads. -/
def step (tree : FileTree) (place : Place) (component : List Char) : Except FileFault Place :=
  if ¬ tree.isDirectory place then .error .notADirectory
  else if component = [] ∨ component = ['.'] then .ok place
  else if component = ['.', '.'] then
    match place with
    | .inside (name :: names) => .ok (.inside (name :: names).dropLast)
    | _ => .ok .outside
  else if maxNameSize < encodedSize component then .error .nameTooLong
  else
    match place with
    | .outside => .error .notFound
    | .inside names =>
        if (tree.at? (names ++ [component])).isSome then .ok (.inside (names ++ [component]))
        else .error .notFound

/-- The place to which components lead. -/
def walk (tree : FileTree) : Place → List (List Char) → Except FileFault Place
  | place, [] => .ok place
  | place, component :: rest =>
      match tree.step place component with
      | .error fault => .error fault
      | .ok next => tree.walk next rest

/-- The place to which a path leads.  A path that starts with a slash starts outside. -/
def resolve (tree : FileTree) (path : List Char) : Except FileFault Place :=
  if '\x00' ∈ path then .error .nulInName
  else if path = [] then .error .notFound
  else if maxPathSize < encodedSize path then .error .nameTooLong
  else
    let start : Place := if path.head? = some '/' then .outside else .inside []
    tree.walk start (Text.parts '/' path)

/-- The text that a path leads to. -/
def reader (tree : FileTree) : FileReader := fun path =>
  match tree.resolve path.toList with
  | .error fault => .error fault
  | .ok .outside => .error .isADirectory
  | .ok (.inside names) =>
      match tree.at? names with
      | none => .error .notFound
      | some .directory => .error .isADirectory
      | some (.file bytes) =>
          match String.fromUTF8? bytes with
          | some text => .ok text
          | none => .error .notUtf8

/-- Adds an entry under a path without dots. -/
def add (tree : FileTree) (path : String) (entry : FileEntry) : FileTree :=
  ⟨((Text.parts '/' path.toList).filter (· ≠ []), entry) :: tree.entries⟩

example :
    let tree := ({} : FileTree).add "sub/a.yml" (.file "x".toUTF8)
    (tree.resolve "./sub//../sub/a.yml".toList).toOption
        = some (.inside ["sub".toList, "a.yml".toList])
      ∧ (tree.resolve "sub/..".toList).toOption = some (.inside [])
      ∧ (tree.resolve "sub/a.yml/".toList).toOption = none
      ∧ (tree.resolve "../sub/a.yml".toList).toOption = none := by decide +kernel

end FileTree

end LooseKeys

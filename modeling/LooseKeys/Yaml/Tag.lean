/-
Module: LooseKeys.Yaml.Tag
Purpose: The tags of nodes.
Main exports: Tag, Tag.ofBytes, Tag.ofString, Tag.isLocal, Tag.localName?
-/

/-!
A tag may be written with escapes of single bytes, so it is a sequence of bytes that need not
be the encoding of a text.  A zero byte ends it.
-/

namespace LooseKeys.Yaml

/-- A tag, or a part of one. -/
structure Tag where
  bytes : List UInt8
deriving DecidableEq, Repr, Inhabited

namespace Tag

/-- The tag that bytes spell, up to the first zero byte. -/
def ofBytes (bytes : List UInt8) : Tag := { bytes := bytes.takeWhile (· ≠ 0) }

def ofString (text : String) : Tag := ofBytes text.toUTF8.data.toList

def isEmpty (tag : Tag) : Bool := tag.bytes.isEmpty

/-- What a handle stands for, with a suffix behind it. -/
def append (start suffix : Tag) : Tag := { bytes := start.bytes ++ suffix.bytes }

/-- The exclamation mark, which begins a local tag and may be one by itself. -/
def localMark : UInt8 := 0x21

/-- Whether a tag is local, that is, begins with an exclamation mark. -/
def isLocal (tag : Tag) : Bool := tag.bytes.head? = some localMark

/-- The name that a local tag gives: the text after the mark, or the mark if nothing follows it.
Bytes that encode no text give none. -/
def localName? (tag : Tag) : Option String :=
  if tag.isLocal then
    let name := tag.bytes.drop 1
    String.fromUTF8? (if name.isEmpty then tag.bytes else name).toByteArray
  else none

example : (ofString "!a").localName? = some "a" ∧ (ofString "!").localName? = some "!"
    ∧ (ofString "a").localName? = none ∧ (ofBytes [0x21, 0xC0, 0x80]).localName? = none
    ∧ ofBytes [0x21, 0, 0x61] = ofString "!" := by decide +kernel

end Tag

end LooseKeys.Yaml

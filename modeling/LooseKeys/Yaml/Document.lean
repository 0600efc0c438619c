/-
Module: LooseKeys.Yaml.Document
Purpose: The first document of a YAML stream, with its aliases resolved to places in it.
Main exports: Item, Document, Document.ofText
-/
import LooseKeys.Yaml.Event
import LooseKeys.Yaml.Token.Lexer

/-!
An anchor gives its node a number, the count of the anchor names known before it; a name that is
used again takes its new number along.  An alias stands for the node that has the number of its
name in the end.
-/

namespace LooseKeys.Yaml

/-- A part of a document. -/
inductive Item where
  /-- The node with a number. -/
  | alias (number : Nat)
  | scalar (scalar : Scalar)
  | sequenceStart (tag : Option Tag)
  | sequenceEnd
  | mappingStart (tag : Option Tag)
  | mappingEnd
deriving DecidableEq, Repr, Inhabited

/-- A document as far as it can be read. -/
structure Document where
  items : List Item := []
  /-- The number of items. -/
  size : Nat := items.length
  /-- The place of the node with a number. -/
  places : List (Nat × Nat) := []
  /-- The document is complete, and the stream holds nothing else. -/
  sound : Bool := false
deriving Repr

/-- What is kept while the events of a document are gone through. -/
structure Loading where
  /-- The items so far, the latest first, and how many they are. -/
  items : List Item := []
  count : Nat := 0
  /-- The numbers of the anchor names. -/
  names : List (String × Nat) := []
  places : List (Nat × Nat) := []

namespace Loading

def add (loading : Loading) (item : Item) : Loading :=
  { loading with items := item :: loading.items, count := loading.count + 1 }

/-- Gives a name a new number, and the number the place of the next item. -/
def anchor (loading : Loading) (name : Option String) : Loading :=
  match name with
  | none => loading
  | some name =>
      let number := loading.names.length
      let others := loading.names.filter (·.1 ≠ name)
      { loading with
        names := (name, number) :: others
        places := (number, loading.count) :: loading.places }

def finish (loading : Loading) (sound : Bool) : Document :=
  { items := loading.items.reverse, places := loading.places, sound }

end Loading

/-- Goes through events up to the end of the first document; `whole` tells whether they make up
a whole stream.  A stream without documents counts as an empty scalar. -/
def Document.load (whole : Bool) (loading : Loading) : List Event → Document
  | [] =>
      if whole && loading.count = 0 then { items := [.scalar { text := "" }], sound := true }
      else loading.finish false
  | event :: rest =>
      match event with
      | .documentStart => load whole loading rest
      | .documentEnd => loading.finish (whole && rest.isEmpty)
      | .alias name =>
          match loading.names.lookup name with
          | some number => load whole (loading.add (.alias number)) rest
          | none => loading.finish false
      | .scalar scalar anchor => load whole ((loading.anchor anchor).add (.scalar scalar)) rest
      | .sequenceStart tag anchor =>
          load whole ((loading.anchor anchor).add (.sequenceStart tag)) rest
      | .sequenceEnd => load whole (loading.add .sequenceEnd) rest
      | .mappingStart tag anchor =>
          load whole ((loading.anchor anchor).add (.mappingStart tag)) rest
      | .mappingEnd => load whole (loading.add .mappingEnd) rest

namespace Document

/-- The first document of a text. -/
def ofText (text : String) : Document :=
  let (events, whole) := Event.ofTokens (Token.ofText text)
  load whole {} events

/-- The items from the node with a number on. -/
def itemsAt (document : Document) (number : Nat) : List Item :=
  match document.places.lookup number with
  | some place => document.items.drop place
  | none => []

end Document

end LooseKeys.Yaml

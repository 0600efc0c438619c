/-
Module: LooseKeys.Proofs.DeclarationOrder
Purpose: Which of a document's entries a registry serves, and when it serves them in the order
  of the document.
Main exports: WrittenDeclaration, Registry.writtenOfYaml, Registry.entriesOfYaml_eq_written,
  Registry.declaredFor, Registry.Spelled, Registry.serves_by_spelling,
  Registry.later_spelling_first
-/
import LooseKeys.Proofs.Acceptance
import LooseKeys.Proofs.Yaml.Views
import LooseKeys.Registry.Declared

/-!
The entries of a document pass through a map by the spelling of their parent tables, and then
through one by the tables that are meant.  The first map keeps the last entry of each spelling and
puts the spellings in ascending order, so it is there that a registry departs from its document:
`Spelled` says what is served, and for which parent tables that is what the document declares.

A document is taken as it is written: a declaration that names no primary key is told from one that
names `id`, though both mean the same.
-/

namespace LooseKeys

/-- Blocks without a common member, none of them empty, are told from what they make together. -/
theorem eq_of_flatMap_eq {α β : Type} {block : α → List β} {first second : List α}
    (inhabited : ∀ x ∈ first, block x ≠ []) (inhabited' : ∀ x ∈ second, block x ≠ [])
    (apart : ∀ x ∈ first, ∀ y ∈ second, ∀ z, z ∈ block x → z ∈ block y → x = y)
    (same : first.flatMap block = second.flatMap block) : first = second := by
  induction first generalizing second with
  | nil =>
      cases second with
      | nil => rfl
      | cons y rest =>
          have empty := List.append_eq_nil_iff.mp same.symm
          exact absurd empty.1 (inhabited' y List.mem_cons_self)
  | cons x rest ih =>
      cases second with
      | nil =>
          have empty := List.append_eq_nil_iff.mp same
          exact absurd empty.1 (inhabited x List.mem_cons_self)
      | cons y rest' =>
          rw [List.flatMap_cons, List.flatMap_cons] at same
          -- The two lists begin with one member, which is of the first block of each.
          obtain ⟨z, others, ofX⟩ := List.exists_cons_of_ne_nil (inhabited x List.mem_cons_self)
          obtain ⟨z', others', ofY⟩ := List.exists_cons_of_ne_nil (inhabited' y List.mem_cons_self)
          have equal : x = y := by
            apply apart x List.mem_cons_self y List.mem_cons_self z
            · rw [ofX]
              exact List.mem_cons_self
            · rw [ofX, ofY, List.cons_append, List.cons_append] at same
              rw [ofY, (List.cons.inj same).1]
              exact List.mem_cons_self
          subst equal
          apply congrArg (List.cons x)
          apply ih
          · exact fun x member => inhabited x (List.mem_cons_of_mem _ member)
          · exact fun x member => inhabited' x (List.mem_cons_of_mem _ member)
          · exact fun x member y member' =>
              apart x (List.mem_cons_of_mem _ member) y (List.mem_cons_of_mem _ member')
          · exact List.append_cancel_left same

/-- What has an empty block can be left out. -/
theorem flatMap_filter_of_nil {α β : Type} {block : α → List β} {keep : α → Bool} {list : List α}
    (empty : ∀ x ∈ list, keep x = false → block x = []) :
    (list.filter keep).flatMap block = list.flatMap block := by
  induction list with
  | nil => rfl
  | cons x rest ih =>
      have others := ih (fun y member => empty y (List.mem_cons_of_mem _ member))
      rw [List.flatMap_cons, ← others]
      cases kept : keep x with
      | true => rw [List.filter_cons_of_pos kept, List.flatMap_cons]
      | false =>
          rw [List.filter_cons_of_neg (by simp [kept]), empty x List.mem_cons_self kept,
            List.nil_append]

/-- A declaration as it is written: it may leave out the primary key. -/
structure WrittenDeclaration where
  table : String
  column : String
  onDelete : Strategy
  primaryKey : Option String := none
deriving DecidableEq, Repr

/-- The declaration that is meant: without a primary key, that is `id`. -/
def WrittenDeclaration.meant (written : WrittenDeclaration) : Declaration where
  table := written.table
  column := written.column
  onDelete := written.onDelete
  primaryKey := written.primaryKey.getD "id"

namespace Registry

/-! ### What a document says -/

/-- A written declaration of which some fields may still be missing. -/
structure PartialWriting where
  table : Option String := none
  column : Option String := none
  onDelete : Option Strategy := none
  primaryKey : Option String := none

namespace PartialWriting

/-- What of a declaration is known with it. -/
def meant (writing : PartialWriting) : PartialDeclaration where
  table := writing.table
  column := writing.column
  onDelete := writing.onDelete
  primaryKey := writing.primaryKey.getD "id"

open Yaml in
/-- The fields of a declaration, each with what is written. -/
def fields : List (Yaml.Field PartialWriting) :=
  [.of "table" readText (fun value writing => { writing with table := some value }),
    .of "column" readText (fun value writing => { writing with column := some value }),
    .of "on_delete" (readVariant Strategy.names Strategy.ofName?)
      (fun value writing => { writing with onDelete := some value }),
    .of "primary_key" readText (fun value writing => { writing with primaryKey := some value })]

/-- The written declaration, or the first field that is missing. -/
def complete (writing : PartialWriting) : Except Reading.Fault WrittenDeclaration :=
  match writing.table, writing.column, writing.onDelete with
  | none, _, _ => .error (.missingField "table")
  | _, none, _ => .error (.missingField "column")
  | _, _, none => .error (.missingField "on_delete")
  | some table, some column, some onDelete =>
      .ok { table, column, onDelete, primaryKey := writing.primaryKey }

theorem fields_show : List.Forall₂ (Yaml.Field.Shows meant) fields declarationFields := by
  unfold fields declarationFields
  refine .cons ?_ (.cons ?_ (.cons ?_ (.cons ?_ .nil)))
  all_goals exact Yaml.Field.of_shows _ _ (fun _ _ => rfl)

theorem complete_meant (writing : PartialWriting) :
    writing.meant.complete = writing.complete.map WrittenDeclaration.meant := by
  obtain ⟨table, column, onDelete, primaryKey⟩ := writing
  cases table with
  | none => rfl
  | some table =>
      cases column with
      | none => rfl
      | some column =>
          cases onDelete with
          | none => rfl
          | some onDelete => rfl

end PartialWriting

/-- Reads one declaration as it is written. -/
def readWritten : Yaml.Reader WrittenDeclaration :=
  Yaml.readRecord "struct RawDefinition" PartialWriting.fields {} (·.complete)

/-- The entries of a document as they are written, in document order. -/
def writtenOfYaml (text : String) :
    Except DocumentFault (List (String × List WrittenDeclaration)) :=
  Yaml.Document.read (Yaml.readMap (Yaml.readList readWritten)) text

/-- The entries that are meant by what is written. -/
def meantBy (written : List (String × List WrittenDeclaration)) :
    List (String × List Declaration) :=
  written.map (Prod.map id (List.map WrittenDeclaration.meant))

/-- A document is read for what it means exactly as it is read for what is written in it. -/
theorem entriesOfYaml_eq_written (text : String) :
    entriesOfYaml text = (writtenOfYaml text).map meantBy := by
  have reads : readDeclaration = readWritten.map WrittenDeclaration.meant := by
    unfold readWritten
    rw [← Yaml.readRecord_map PartialWriting.fields_show PartialWriting.complete_meant]
    rfl
  unfold entriesOfYaml writtenOfYaml
  rw [reads, Yaml.readList_map, Yaml.readMap_map, Yaml.Document.read_map]
  rfl

/-! ### What a registry is to serve -/

/-- The relations that one entry declares, as relations of a parent table. -/
def declaredBy (parentTable : String) (entry : String × List Declaration) : List Relation :=
  entry.2.map (fun declaration =>
    { parentTable := qualify parentTable
      childTable := declaration.table
      column := declaration.column
      strategy := declaration.onDelete
      primaryKey := declaration.primaryKey })

/-- The relations that entries declare for a parent table, bare or with its schema, in the order
of the entries. -/
def declaredFor (parentTable : String) (entries : List (String × List Declaration)) :
    List Relation :=
  (entries.filter (fun entry => qualify entry.1 = qualify parentTable)).flatMap
    (declaredBy parentTable)

/-- The entries that declare relations for a parent table, bare or with its schema. -/
def entriesOf (parentTable : String) (entries : List (String × List Declaration)) :
    List (String × List Declaration) :=
  entries.filter (fun entry => qualify entry.1 = qualify parentTable ∧ entry.2 ≠ [])

/-- The spellings under which entries declare relations for a parent table, in their order. -/
def spellings (parentTable : String) (entries : List (String × List Declaration)) :
    List String :=
  (entriesOf parentTable entries).map (·.1)

/-- A registry serves, of the entries of a document, the last one of each spelling, spelling by
spelling in ascending order. -/
structure Spelled (registry : Registry) (entries standing : List (String × List Declaration)) :
    Prop where
  ascends : standing.Pairwise (fun first second => first.1 < second.1)
  mem_iff : ∀ entry, entry ∈ standing ↔ SortedMap.Stands entries entry
  inhabited : ∀ entry ∈ standing, entry.2 ≠ []
  relationsFor : ∀ parentTable,
    registry.relationsFor parentTable = declaredFor parentTable standing

/-! ### From entries to relations -/

theorem ofYaml_of_written {text : String} {written : List (String × List WrittenDeclaration)}
    (read : writtenOfYaml text = .ok written) : ofYaml text = ofEntries (meantBy written) := by
  unfold ofYaml
  rw [entriesOfYaml_eq_written, read]
  rfl

/-- Entries that are read have relations, and they are taken in order. -/
theorem declaredRelations_eq_ok {entries : List (String × List Declaration)}
    {relations : List Relation} (read : declaredRelations entries = .ok relations) :
    (∀ entry ∈ entries, entry.2 ≠ []) ∧
      relations = entries.flatMap (fun entry => entry.2.map (·.toRelation entry.1)) := by
  induction entries generalizing relations with
  | nil =>
      cases read
      simp
  | cons entry rest ih =>
      obtain ⟨parentTable, declarations⟩ := entry
      unfold declaredRelations at read
      split at read
      · cases read
      · rename_i inhabited
        split at read
        · cases read
        · rename_i others earlier
          cases read
          obtain ⟨each, rfl⟩ := ih earlier
          refine ⟨?_, rfl⟩
          intro entry member
          rcases List.mem_cons.mp member with rfl | ofRest
          · simpa using inhabited
          · exact each entry ofRest

theorem qualified_toRelation (spelled : String) (declaration : Declaration) :
    (declaration.toRelation spelled).qualified = { declaration.toRelation spelled with
      parentTable := qualify spelled } :=
  congrArg (fun parentTable => { declaration.toRelation spelled with parentTable })
    (qualify_qualify spelled)

/-- Of the relations of one entry either all have a parent table or none has. -/
theorem filter_entry_eq (parentTable : String) (entry : String × List Declaration) :
    ((entry.2.map (·.toRelation entry.1)).map Relation.qualified).filter
        (·.parentTable = qualify parentTable) =
      if qualify entry.1 = qualify parentTable then declaredBy parentTable entry else [] := by
  have block : (entry.2.map (·.toRelation entry.1)).map Relation.qualified =
      declaredBy entry.1 entry := by
    rw [List.map_map]
    exact List.map_congr_left (fun declaration _ => qualified_toRelation entry.1 declaration)
  have parent : ∀ relation ∈ declaredBy entry.1 entry, relation.parentTable = qualify entry.1 := by
    intro relation member
    obtain ⟨_, _, rfl⟩ := List.mem_map.mp member
    rfl
  rw [block]
  split
  · rename_i meant
    have own : declaredBy parentTable entry = declaredBy entry.1 entry := by
      unfold declaredBy
      rw [meant]
    rw [own]
    apply List.filter_eq_self.mpr
    exact fun relation member => decide_eq_true ((parent relation member).trans meant)
  · rename_i other
    apply List.filter_eq_nil_iff.mpr
    intro relation member
    rw [parent relation member, decide_eq_true_eq]
    exact other

/-- Of the relations of all entries, those of a parent table are what is declared for it. -/
theorem filter_relations_eq (parentTable : String)
    (entries : List (String × List Declaration)) :
    ((entries.flatMap (fun entry => entry.2.map (·.toRelation entry.1))).map
      Relation.qualified).filter (·.parentTable = qualify parentTable) =
      declaredFor parentTable entries := by
  rw [List.map_flatMap, List.filter_flatMap]
  simp only [filter_entry_eq]
  unfold declaredFor
  rw [← flatMap_filter_of_nil
    (fun entry _ other => if_neg (of_decide_eq_false other))]
  apply List.flatMap_congr
  intro entry member
  exact if_pos (of_decide_eq_true (List.mem_filter.mp member).2)

/-- Entries without relations declare nothing. -/
theorem declaredFor_eq_flatMap (parentTable : String)
    (entries : List (String × List Declaration)) :
    declaredFor parentTable entries =
      (entriesOf parentTable entries).flatMap (declaredBy parentTable) := by
  have entriesOf_eq : entriesOf parentTable entries =
      (entries.filter (fun entry => qualify entry.1 = qualify parentTable)).filter
        (fun entry => entry.2 ≠ []) := by
    rw [List.filter_filter]
    unfold entriesOf
    congr 1
    funext entry
    rw [Bool.decide_and, Bool.and_comm]
  rw [entriesOf_eq, flatMap_filter_of_nil]
  · rfl
  · intro entry _ empty
    have undeclared : entry.2 = [] := by simpa using empty
    unfold declaredBy
    rw [undeclared, List.map_nil]

theorem declaredBy_ne_nil {parentTable : String} {entries : List (String × List Declaration)}
    {entry : String × List Declaration} (member : entry ∈ entriesOf parentTable entries) :
    declaredBy parentTable entry ≠ [] := by
  have inhabited := (of_decide_eq_true (List.mem_filter.mp member).2).2
  exact fun empty => inhabited (List.map_eq_nil_iff.mp empty)

/-! ### What is served -/

/-- The registry of entries serves those that stand. -/
theorem exists_spelled {entries : List (String × List Declaration)} {registry : Registry}
    (accepted : ofEntries entries = .ok registry) :
    ∃ standing, registry.Spelled entries standing := by
  unfold ofEntries at accepted
  split at accepted
  · cases accepted
  · rename_i relations read
    obtain ⟨inhabited, rfl⟩ := declaredRelations_eq_ok read
    refine ⟨(SortedMap.ofList entries).entries, ?_⟩
    rcases ofList_ends _ with ⟨built, success, _, groups⟩ | ⟨_, _, _, _, _, failed⟩
    · cases success.symm.trans accepted
      exact {
        ascends := (SortedMap.ofList entries).ascending
        mem_iff := fun _ => SortedMap.mem_entries_ofList
        inhabited := inhabited
        relationsFor := fun parentTable => by
          rw [groups.relationsFor, filter_relations_eq] }
    · cases failed.symm.trans accepted

namespace Spelled

variable {registry : Registry} {entries standing : List (String × List Declaration)}
  (spelled : registry.Spelled entries standing) {parentTable : String}
include spelled

/-- The entries of a parent table that stand are among its entries. -/
theorem mem_entriesOf {entry : String × List Declaration}
    (member : entry ∈ entriesOf parentTable standing) : entry ∈ entriesOf parentTable entries := by
  obtain ⟨stands, own⟩ := List.mem_filter.mp member
  exact List.mem_filter.mpr ⟨SortedMap.mem_of_stands ((spelled.mem_iff entry).mp stands), own⟩

/-- Where the spellings ascend, all entries of the parent table stand, in the order in which they
are served. -/
theorem entriesOf_eq (ascends : (spellings parentTable entries).Pairwise (· < ·)) :
    entriesOf parentTable standing = entriesOf parentTable entries := by
  have distinct : (spellings parentTable entries).Nodup := ascends.imp Std.ne_of_lt
  apply eq_of_ascending (spelled.ascends.filter _) (List.pairwise_map.mp ascends)
  intro entry
  constructor
  · exact spelled.mem_entriesOf
  · intro member
    obtain ⟨ofEntries, own⟩ := List.mem_filter.mp member
    have meant := (of_decide_eq_true own).1
    obtain ⟨declarations, stands⟩ := SortedMap.exists_stands_of_mem ofEntries
    have served := (spelled.mem_iff _).mpr stands
    have last : (entry.1, declarations) ∈ entriesOf parentTable standing :=
      List.mem_filter.mpr ⟨served, decide_eq_true ⟨meant, spelled.inhabited _ served⟩⟩
    have same : (entry.1, declarations) = entry :=
      List.inj_on_of_nodup_map distinct (spelled.mem_entriesOf last) member rfl
    exact same ▸ last

/-- Where the entries of a parent table are served in their order, their spellings ascend. -/
theorem spellings_ascend (distinct : (registry.relationsFor parentTable).Nodup)
    (same : registry.relationsFor parentTable = declaredFor parentTable entries) :
    (spellings parentTable entries).Pairwise (· < ·) := by
  rw [same, declaredFor_eq_flatMap, List.nodup_flatMap] at distinct
  rw [spelled.relationsFor, declaredFor_eq_flatMap, declaredFor_eq_flatMap] at same
  have equal : entriesOf parentTable standing = entriesOf parentTable entries := by
    apply eq_of_flatMap_eq (fun _ => declaredBy_ne_nil) (fun _ => declaredBy_ne_nil) ?_ same
    intro first ofStanding second ofEntries relation inFirst inSecond
    by_contra different
    have symmetric : Std.Symm (Function.onFun List.Disjoint (declaredBy parentTable)) :=
      ⟨fun _ _ apart => apart.symm⟩
    exact distinct.2.forall (spelled.mem_entriesOf ofStanding) ofEntries different inFirst inSecond
  unfold spellings
  rw [← equal, List.pairwise_map]
  exact spelled.ascends.filter _

end Spelled

/-- Of a document that is accepted the last entry of each spelling of a parent table is served,
spelling by spelling in ascending order.  So a parent table has all its relations in the order of
the document exactly when its spellings ascend in it, each used once. -/
theorem serves_by_spelling {text : String} {written : List (String × List WrittenDeclaration)}
    (read : writtenOfYaml text = .ok written) {registry : Registry}
    (accepted : ofYaml text = .ok registry) :
    let entries := meantBy written
    (∃ standing, registry.Spelled entries standing) ∧
      ∀ parentTable, registry.relationsFor parentTable = declaredFor parentTable entries ↔
        (spellings parentTable entries).Pairwise (· < ·) := by
  intro entries
  rw [ofYaml_of_written read] at accepted
  obtain ⟨standing, spelled⟩ := exists_spelled accepted
  refine ⟨⟨standing, spelled⟩, fun parentTable => ⟨?_, ?_⟩⟩
  · exact spelled.spellings_ascend (registry.nodup_relationsFor parentTable)
  · intro ascends
    rw [spelled.relationsFor, declaredFor_eq_flatMap, spelled.entriesOf_eq ascends,
      declaredFor_eq_flatMap]

/-! ### A document that is not served as it stands -/

/-- A document that declares relations for one parent table under two spellings, one of them used
twice. -/
def mixedText : String :=
  "users:\n- {table: posts, column: user_id, on_delete: async_delete}\n" ++
    "users:\n- {table: notes, column: author_id, on_delete: async_nullify, primary_key: key}\n" ++
    "public.users:\n- {table: likes, column: user_id, on_delete: async_delete}\n"

/-- The entries of that document. -/
def mixedEntries : List (String × List WrittenDeclaration) :=
  [("users", [⟨"posts", "user_id", .asyncDelete, none⟩]),
    ("users", [⟨"notes", "author_id", .asyncNullify, some "key"⟩]),
    ("public.users", [⟨"likes", "user_id", .asyncDelete, none⟩])]

/-- The registry of that document. -/
def mixedRegistry : Registry where
  byParent := {
    entries := [("public.users", [⟨"public.users", "likes", "user_id", .asyncDelete, "id"⟩,
      ⟨"public.users", "notes", "author_id", .asyncNullify, "key"⟩])] }

theorem writtenOfYaml_mixedText : writtenOfYaml mixedText = .ok mixedEntries :=
  Yaml.Document.read_eq_ok (by decide +kernel)

theorem ofYaml_mixedText : ofYaml mixedText = .ok mixedRegistry :=
  (ofYaml_of_written writtenOfYaml_mixedText).trans rfl

/-- The later spelling is served first, and the first entry is lost. -/
theorem later_spelling_first :
    writtenOfYaml mixedText = .ok mixedEntries ∧ ofYaml mixedText = .ok mixedRegistry ∧
      declaredFor "users" (meantBy mixedEntries) =
        [⟨"public.users", "posts", "user_id", .asyncDelete, "id"⟩,
          ⟨"public.users", "notes", "author_id", .asyncNullify, "key"⟩,
          ⟨"public.users", "likes", "user_id", .asyncDelete, "id"⟩] ∧
      mixedRegistry.relationsFor "users" =
        [⟨"public.users", "likes", "user_id", .asyncDelete, "id"⟩,
          ⟨"public.users", "notes", "author_id", .asyncNullify, "key"⟩] ∧
      mixedRegistry.relationsFor "users" ≠ declaredFor "users" (meantBy mixedEntries) :=
  ⟨writtenOfYaml_mixedText, ofYaml_mixedText, by decide, by decide, by decide⟩

/-- A document that uses two spellings of one parent table in ascending order. -/
def orderedText : String :=
  "posts:\n- {table: tags, column: post_id, on_delete: async_delete}\n" ++
    "public.posts:\n- {table: links, column: post_id, on_delete: async_delete}\n"

/-- The entries of that document. -/
def orderedEntries : List (String × List WrittenDeclaration) :=
  [("posts", [⟨"tags", "post_id", .asyncDelete, none⟩]),
    ("public.posts", [⟨"links", "post_id", .asyncDelete, none⟩])]

/-- The registry of that document. -/
def orderedRegistry : Registry where
  byParent := {
    entries := [("public.posts", [⟨"public.posts", "tags", "post_id", .asyncDelete, "id"⟩,
      ⟨"public.posts", "links", "post_id", .asyncDelete, "id"⟩])] }

theorem writtenOfYaml_orderedText : writtenOfYaml orderedText = .ok orderedEntries :=
  Yaml.Document.read_eq_ok (by decide +kernel)

theorem ofYaml_orderedText : ofYaml orderedText = .ok orderedRegistry :=
  (ofYaml_of_written writtenOfYaml_orderedText).trans rfl

theorem serves_by_spelling_in_sample :
    (writtenOfYaml mixedText = .ok mixedEntries ∧ ofYaml mixedText = .ok mixedRegistry ∧
      (∃ standing, mixedRegistry.Spelled (meantBy mixedEntries) standing) ∧
      spellings "users" (meantBy mixedEntries) = ["users", "users", "public.users"] ∧
      mixedRegistry.relationsFor "users" ≠ declaredFor "users" (meantBy mixedEntries)) ∧
    writtenOfYaml orderedText = .ok orderedEntries ∧ ofYaml orderedText = .ok orderedRegistry ∧
      spellings "public.posts" (meantBy orderedEntries) = ["posts", "public.posts"] ∧
      orderedRegistry.relationsFor "public.posts"
        = declaredFor "public.posts" (meantBy orderedEntries) := by
  obtain ⟨spelled, mixed_iff⟩ := serves_by_spelling writtenOfYaml_mixedText ofYaml_mixedText
  obtain ⟨_, ordered_iff⟩ := serves_by_spelling writtenOfYaml_orderedText ofYaml_orderedText
  refine ⟨⟨writtenOfYaml_mixedText, ofYaml_mixedText, spelled, by decide, ?_⟩,
    writtenOfYaml_orderedText, ofYaml_orderedText, by decide, ?_⟩
  · rw [ne_eq, mixed_iff]
    decide
  · rw [ordered_iff]
    decide

end Registry

end LooseKeys

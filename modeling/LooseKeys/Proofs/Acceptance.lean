/-
Module: LooseKeys.Proofs.Acceptance
Purpose: Which lists of relations are accepted, and what the registry of an accepted list holds.
Main exports: simpleForm, tableForm, Relation.IsSound, Registry.Acceptable, Registry.Serves,
  Registry.RefusedFirst, Registry.accepts_exactly
-/
import LooseKeys.Proofs.Registry
import LooseKeys.Proofs.Sorting
import Mathlib.Computability.RegularExpressions

/-!
The forms that names are to have are said once more as regular expressions, apart from the tests
that look for them.  A registry is built one relation after the other, so the induction is on the
list from its end: `Groups` is what every accepted list leaves behind, and `add_cases` says what
the next relation does to it.
-/

namespace LooseKeys

/-! ### The forms of names -/

/-- Any one of some characters. -/
def oneOf (choice : String) : RegularExpression Char :=
  choice.toList.foldr (fun c form => .char c + form) 0

/-- What a name starts with: `a-z_`. -/
def nameStarts : String := "abcdefghijklmnopqrstuvwxyz_"

/-- What a name goes on with: `a-z0-9_`. -/
def nameParts : String := nameStarts ++ "0123456789"

/-- One name: `[a-z_][a-z0-9_]*`. -/
def simpleForm : RegularExpression Char := oneOf nameStarts * (oneOf nameParts).star

/-- One name, or two with a dot between them. -/
def tableForm : RegularExpression Char := simpleForm * (1 + .char '.' * simpleForm)

theorem mem_oneOf {choice : String} {chars : List Char} :
    chars ∈ (oneOf choice).matches' ↔ ∃ c ∈ choice.toList, chars = [c] := by
  unfold oneOf
  induction choice.toList with
  | nil =>
      rw [List.foldr_nil, RegularExpression.matches'_zero]
      simp
  | cons c rest ih =>
      rw [List.foldr_cons, RegularExpression.matches'_add, Language.mem_add, ih,
        RegularExpression.matches'_char, List.exists_mem_cons_iff]
      exact or_congr_left Iff.rfl

theorem mem_star_oneOf {choice : String} {chars : List Char} :
    chars ∈ (oneOf choice).star.matches' ↔ ∀ c ∈ chars, c ∈ choice.toList := by
  rw [RegularExpression.matches'_star, Language.mem_kstar]
  constructor
  · rintro ⟨words, rfl, each⟩ c member
    obtain ⟨word, ofWords, ofWord⟩ := List.mem_flatten.mp member
    obtain ⟨chosen, ofChoice, rfl⟩ := mem_oneOf.mp (each word ofWords)
    rwa [List.mem_singleton.mp ofWord]
  · intro each
    refine ⟨chars.map (fun c => [c]), (List.flatMap_singleton' chars).symm, ?_⟩
    intro word member
    obtain ⟨c, ofChars, rfl⟩ := List.mem_map.mp member
    exact mem_oneOf.mpr ⟨c, each c ofChars, rfl⟩

/-- What holds of each character from one code to another holds of those between them. -/
theorem of_code_between {motive : Char → Prop} {low high : Nat}
    (each : ∀ code < high + 1, low ≤ code → motive (Char.ofNat code)) {c : Char}
    (least : low ≤ c.toNat) (most : c.toNat ≤ high) : motive c := by
  have here := each c.toNat (Nat.lt_succ_of_le most) least
  rwa [Char.ofNat_toNat] at here

theorem isNameStart_iff {c : Char} : isNameStart c ↔ c ∈ nameStarts.toList := by
  constructor
  · intro start
    rcases Bool.or_eq_true_iff.mp start with lower | underscore
    · have bounds := Bool.and_eq_true_iff.mp lower
      have letters : ∀ code < 122 + 1, 97 ≤ code → Char.ofNat code ∈ nameStarts.toList := by decide
      exact of_code_between letters (of_decide_eq_true bounds.1) (of_decide_eq_true bounds.2)
    · rw [of_decide_eq_true underscore]
      decide
  · have all : nameStarts.toList.all isNameStart := by decide
    exact List.all_eq_true.mp all c

theorem isNamePart_iff {c : Char} : isNamePart c ↔ c ∈ nameParts.toList := by
  unfold isNamePart nameParts
  rw [Bool.or_eq_true, isNameStart_iff, String.toList_append, List.mem_append]
  apply or_congr_right
  constructor
  · intro digit
    have bounds := Bool.and_eq_true_iff.mp digit
    have digits : ∀ code < 57 + 1, 48 ≤ code → Char.ofNat code ∈ "0123456789".toList := by decide
    exact of_code_between digits (of_decide_eq_true bounds.1) (of_decide_eq_true bounds.2)
  · have all : "0123456789".toList.all Char.isDigit := by decide
    exact List.all_eq_true.mp all c

theorem isSimpleName_iff {chars : List Char} :
    isSimpleName chars ↔ chars ∈ simpleForm.matches' := by
  unfold simpleForm
  rw [RegularExpression.matches'_mul, Language.mem_mul]
  constructor
  · intro simple
    cases chars with
    | nil => cases simple
    | cons c rest =>
        obtain ⟨start, parts⟩ := Bool.and_eq_true_iff.mp simple
        have first : [c] ∈ (oneOf nameStarts).matches' := by
          rw [mem_oneOf]
          exact ⟨c, isNameStart_iff.mp start, rfl⟩
        have others : rest ∈ (oneOf nameParts).star.matches' := by
          rw [mem_star_oneOf]
          exact fun other member => isNamePart_iff.mp (List.all_eq_true.mp parts other member)
        exact ⟨[c], first, rest, others, rfl⟩
  · rintro ⟨_, first, rest, parts, rfl⟩
    obtain ⟨c, start, rfl⟩ := mem_oneOf.mp first
    apply Bool.and_eq_true_iff.mpr
    refine ⟨isNameStart_iff.mpr start, List.all_eq_true.mpr ?_⟩
    exact fun other member => isNamePart_iff.mpr (mem_star_oneOf.mp parts other member)

/-- A name has no dot in it. -/
theorem dot_not_mem_of_isSimpleName {chars : List Char} (simple : isSimpleName chars) :
    '.' ∉ chars := by
  have starts : ¬ isNameStart '.' := by decide
  have goesOn : ¬ isNamePart '.' := by decide
  cases chars with
  | nil => cases simple
  | cons c rest =>
      have both := Bool.and_eq_true_iff.mp simple
      intro member
      rcases List.mem_cons.mp member with rfl | later
      · exact starts both.1
      · exact goesOn (List.all_eq_true.mp both.2 '.' later)

theorem isTableName_iff {name : String} : isTableName name ↔ name.toList ∈ tableForm.matches' := by
  unfold tableForm isTableName
  rw [RegularExpression.matches'_mul, RegularExpression.matches'_add,
    RegularExpression.matches'_mul, Language.mem_mul]
  simp only [Language.mem_add, Language.mem_mul, RegularExpression.matches'_epsilon,
    RegularExpression.matches'_char, Language.mem_one, ← isSimpleName_iff, Bool.and_eq_true,
    decide_eq_true_eq, List.all_eq_true]
  constructor
  · rintro ⟨atMostTwo, simple⟩
    have joined := Text.intercalate_parts '.' name.toList
    have nonempty := Text.parts_ne_nil '.' name.toList
    generalize Text.parts '.' name.toList = parts at atMostTwo simple joined nonempty
    match parts with
    | [table] => exact ⟨table, simple table (by simp), [], Or.inl rfl, by simpa using joined⟩
    | [schema, table] =>
        refine ⟨schema, simple schema (by simp), '.' :: table, Or.inr ?_, by simpa using joined⟩
        exact ⟨['.'], rfl, table, simple table (by simp), rfl⟩
  · rintro ⟨first, simple, _, rfl | ⟨_, rfl, table, simple', rfl⟩, joined⟩
    · rw [← joined, List.append_nil, Text.parts_eq_self (dot_not_mem_of_isSimpleName simple)]
      simp [simple]
    · rw [← joined, List.singleton_append,
        Text.parts_append _ (dot_not_mem_of_isSimpleName simple),
        Text.parts_eq_self (dot_not_mem_of_isSimpleName simple')]
      simp [simple, simple']

/-! ### What is to be accepted -/

namespace Relation

/-- What relations are told apart by. -/
def place (relation : Relation) : String × String × String :=
  (qualify relation.parentTable, relation.childTable, relation.column)

/-- The names of a relation have their forms, and it does not set its rows' key to null. -/
structure IsSound (relation : Relation) : Prop where
  parentTable : (qualify relation.parentTable).toList ∈ tableForm.matches'
  childTable : relation.childTable.toList ∈ tableForm.matches'
  column : relation.column.toList ∈ simpleForm.matches'
  primaryKey : relation.primaryKey.toList ∈ simpleForm.matches'
  keepsKey : ¬ (relation.strategy = .asyncNullify ∧ relation.column = relation.primaryKey)

theorem fault?_qualified_eq_none_iff (relation : Relation) :
    relation.qualified.fault? = none ↔ relation.IsSound := by
  rw [fault?_eq_none_iff, isTableName_iff, isTableName_iff]
  unfold isColumnName
  rw [isSimpleName_iff, isSimpleName_iff]
  constructor
  · rintro ⟨parentTable, childTable, column, primaryKey, keepsKey⟩
    exact ⟨parentTable, childTable, column, primaryKey, keepsKey⟩
  · rintro ⟨parentTable, childTable, column, primaryKey, keepsKey⟩
    exact ⟨parentTable, childTable, column, primaryKey, keepsKey⟩

theorem place_eq_iff {first second : Relation} :
    first.place = second.place ↔
      first.qualified.parentTable = qualify second.parentTable ∧
        first.qualified.sameColumn second.qualified := by
  unfold place qualified sameColumn
  rw [Prod.mk.injEq, Prod.mk.injEq, Bool.and_eq_true, decide_eq_true_eq, decide_eq_true_eq]

end Relation

namespace Registry

/-- Every relation is sound, and no two name one column of one child table for one parent table. -/
structure Acceptable (declared : List Relation) : Prop where
  sound : ∀ relation ∈ declared, relation.IsSound
  apart : (declared.map Relation.place).Nodup

/-- A registry holds the relations of a list, all of them and each in its place. -/
structure Serves (registry : Registry) (declared : List Relation) : Prop where
  relationsFor_qualify : ∀ name, registry.relationsFor (qualify name) = registry.relationsFor name
  relationsFor : ∀ name, registry.relationsFor name =
    (declared.map Relation.qualified).filter (·.parentTable = qualify name)
  parentTables_ascend : registry.parentTables.Pairwise (· < ·)
  mem_parentTables : ∀ table, table ∈ registry.parentTables ↔
    ∃ relation ∈ declared, qualify relation.parentTable = table
  relations : registry.relations =
    (declared.map Relation.qualified).mergeSort (fun x y => x.parentTable ≤ y.parentTable)
  size : registry.size = declared.length
  isEmpty : registry.isEmpty ↔ declared = []

/-- `accepted ++ [refused]` is the shortest beginning of a list that is refused, for a fault of its
last relation. -/
structure RefusedFirst (declared accepted : List Relation) (refused : Relation)
    (fault : Relation.Fault) : Prop where
  beginning : accepted ++ [refused] <+: declared
  fails : ofList (accepted ++ [refused]) = .error (refused.qualified.refuse fault)
  shortest : ∀ front, front <+: accepted → ∃ registry, ofList front = .ok registry
  cause : refused.qualified.fault? = some fault ∨
    refused.IsSound ∧ fault = .duplicateColumn ∧ refused.place ∈ accepted.map Relation.place

theorem acceptable_nil : Acceptable [] where
  sound := by simp
  apart := List.nodup_nil

theorem acceptable_concat {declared : List Relation} {relation : Relation} :
    Acceptable (declared ++ [relation]) ↔
      Acceptable declared ∧ relation.IsSound ∧ relation.place ∉ declared.map Relation.place := by
  constructor
  · rintro ⟨sound, apart⟩
    rw [List.map_append, List.map_singleton, ← List.concat_eq_append, List.nodup_concat] at apart
    refine ⟨⟨?_, apart.2⟩, ?_, apart.1⟩
    · exact fun other member => sound other (List.mem_append_left _ member)
    · exact sound relation (List.mem_append_right _ List.mem_cons_self)
  · rintro ⟨⟨sound, apart⟩, isSound, fresh⟩
    constructor
    · intro other member
      rcases List.mem_append.mp member with old | new
      · exact sound other old
      · rw [List.mem_singleton.mp new]
        exact isSound
    · rw [List.map_append, List.map_singleton, ← List.concat_eq_append, List.nodup_concat]
      exact ⟨fresh, apart⟩

/-! ### Lists of relations -/

theorem addAll_cons (registry : Registry) (relation : Relation) (rest : List Relation) :
    registry.addAll (relation :: rest) = (registry.add relation).bind (·.addAll rest) := by
  conv_lhs => unfold addAll
  generalize registry.add relation = added
  cases added with
  | error error => rfl
  | ok grown => rfl

theorem addAll_append (registry : Registry) (first second : List Relation) :
    registry.addAll (first ++ second) = (registry.addAll first).bind (·.addAll second) := by
  induction first generalizing registry with
  | nil => rfl
  | cons relation rest ih =>
      rw [List.cons_append, addAll_cons, addAll_cons]
      generalize registry.add relation = added
      cases added with
      | error error => rfl
      | ok grown => exact ih grown

theorem ofList_concat (declared : List Relation) (relation : Relation) :
    ofList (declared ++ [relation]) = (ofList declared).bind (·.add relation) := by
  unfold ofList
  rw [addAll_append]
  apply congrArg
  funext registry
  rw [addAll_cons]
  generalize registry.add relation = added
  cases added with
  | error error => rfl
  | ok grown => rfl

/-- Every beginning of an accepted list is accepted. -/
theorem exists_ofList_of_prefix {front declared : List Relation} (beginning : front <+: declared)
    {registry : Registry} (accepted : ofList declared = .ok registry) :
    ∃ earlier, ofList front = .ok earlier := by
  obtain ⟨rest, rfl⟩ := beginning
  unfold ofList at accepted ⊢
  rw [addAll_append] at accepted
  cases halfway : addAll {} front with
  | error error => rw [halfway] at accepted; cases accepted
  | ok earlier => exact ⟨earlier, rfl⟩

/-! ### What acceptance leaves behind -/

/-- A registry groups the relations of a list: no group is empty, and each holds the relations of
its parent table in order. -/
structure Groups (registry : Registry) (declared : List Relation) : Prop where
  inhabited : ∀ entry ∈ registry.byParent.entries, entry.2 ≠ []
  relationsFor : ∀ name, registry.relationsFor name =
    (declared.map Relation.qualified).filter (·.parentTable = qualify name)

theorem groups_empty : Groups {} [] where
  inhabited := by simp
  relationsFor := fun _ => rfl

theorem relationsFor_listing (registry : Registry) (declared : Relation) (name : String)
    (sound : declared.qualified.fault? = none)
    (fresh : ¬ (registry.relationsFor declared.parentTable).any
      (·.sameColumn declared.qualified)) :
    (registry.listing declared sound fresh).relationsFor name =
      registry.relationsFor name ++
        [declared.qualified].filter (·.parentTable = qualify name) := by
  by_cases same : qualify name = qualify declared.parentTable
  · have listed : [declared.qualified].filter (·.parentTable = qualify name) =
        [declared.qualified] := List.filter_cons_of_pos (by simp [same, Relation.qualified])
    unfold relationsFor listing
    rw [listed, same, SortedMap.get?_insert_self]
    rfl
  · have others : [declared.qualified].filter (·.parentTable = qualify name) = [] :=
      List.filter_cons_of_neg (by simp [Ne.symm same, Relation.qualified])
    unfold relationsFor listing
    rw [others, SortedMap.get?_insert_of_ne _ same, List.append_nil]

namespace Groups

variable {registry : Registry} {declared : List Relation} (groups : registry.Groups declared)
include groups

/-- The next relation joins its group, which it opens if it is the first. -/
theorem concat (relation : Relation) (sound : relation.qualified.fault? = none)
    (fresh : ¬ (registry.relationsFor relation.parentTable).any
      (·.sameColumn relation.qualified)) :
    (registry.listing relation sound fresh).Groups (declared ++ [relation]) where
  inhabited := by
    intro entry member
    rcases SortedMap.mem_entries_insert member with rfl | old
    · exact List.append_ne_nil_of_right_ne_nil _ (List.cons_ne_nil _ _)
    · exact groups.inhabited entry old
  relationsFor := by
    intro name
    rw [relationsFor_listing, groups.relationsFor, List.map_append, List.filter_append]
    rfl

/-- The siblings of a relation are the listed relations of its parent table, so one of them has
its column when its place is taken. -/
theorem any_sameColumn_iff (relation : Relation) :
    (registry.relationsFor relation.parentTable).any (·.sameColumn relation.qualified) ↔
      relation.place ∈ declared.map Relation.place := by
  rw [List.any_eq_true, groups.relationsFor, List.mem_map]
  constructor
  · rintro ⟨_, member, same⟩
    obtain ⟨ofList, parent⟩ := List.mem_filter.mp member
    obtain ⟨other, ofDeclared, rfl⟩ := List.mem_map.mp ofList
    exact ⟨other, ofDeclared, Relation.place_eq_iff.mpr ⟨of_decide_eq_true parent, same⟩⟩
  · rintro ⟨other, ofDeclared, same⟩
    obtain ⟨parent, column⟩ := Relation.place_eq_iff.mp same
    refine ⟨other.qualified, List.mem_filter.mpr ⟨?_, decide_eq_true parent⟩, column⟩
    exact List.mem_map_of_mem ofDeclared

theorem mem_parentTables (table : String) :
    table ∈ registry.parentTables ↔
      ∃ relation ∈ declared, qualify relation.parentTable = table := by
  constructor
  · intro member
    obtain ⟨entry, ofEntries, rfl⟩ := List.mem_map.mp member
    obtain ⟨listed, ofEntry⟩ := List.exists_mem_of_ne_nil _ (groups.inhabited entry ofEntries)
    rw [← relationsFor_entry ofEntries, groups.relationsFor, registry.qualified entry ofEntries]
      at ofEntry
    obtain ⟨ofList, parent⟩ := List.mem_filter.mp ofEntry
    obtain ⟨relation, ofDeclared, rfl⟩ := List.mem_map.mp ofList
    exact ⟨relation, ofDeclared, of_decide_eq_true parent⟩
  · rintro ⟨relation, ofDeclared, rfl⟩
    have listed : relation.qualified ∈ registry.relationsFor relation.parentTable := by
      rw [groups.relationsFor]
      exact List.mem_filter.mpr ⟨List.mem_map_of_mem ofDeclared, decide_eq_true rfl⟩
    exact mem_parentTables_of_mem_relationsFor listed

/-- Nothing of a list is lost: the groups are told by the list alone. -/
theorem serves : registry.Serves declared := by
  have ascends := registry.pairwise_parentTables
  have sorted : registry.relations =
      (declared.map Relation.qualified).mergeSort (fun x y => x.parentTable ≤ y.parentTable) := by
    have covered : ∀ relation ∈ declared.map Relation.qualified,
        relation.parentTable ∈ registry.parentTables := by
      intro listed member
      obtain ⟨relation, ofDeclared, rfl⟩ := List.mem_map.mp member
      exact (groups.mem_parentTables _).mpr ⟨relation, ofDeclared, rfl⟩
    rw [← registry.flatMap_relationsFor, ← flatMap_filter_eq_mergeSort ascends covered]
    apply List.flatMap_congr
    intro table member
    rw [groups.relationsFor, qualify_parentTable member]
  exact {
    relationsFor_qualify := fun name => by unfold Registry.relationsFor; rw [qualify_qualify]
    relationsFor := groups.relationsFor
    parentTables_ascend := ascends
    mem_parentTables := groups.mem_parentTables
    relations := sorted
    size := by
      unfold Registry.size
      rw [sorted, List.length_mergeSort, List.length_map]
    isEmpty := by
      have keys : registry.isEmpty ↔ registry.parentTables = [] := by
        unfold Registry.isEmpty SortedMap.isEmpty Registry.parentTables SortedMap.keys
        rw [List.isEmpty_iff, List.map_eq_nil_iff]
      rw [keys, List.eq_nil_iff_forall_not_mem, List.eq_nil_iff_forall_not_mem]
      simp only [groups.mem_parentTables]
      constructor
      · exact fun unrelated relation member => unrelated _ ⟨relation, member, rfl⟩
      · rintro unrelated _ ⟨relation, member, _⟩
        exact unrelated relation member }

end Groups

/-- Building the registry of a list ends in one of two ways: the list is acceptable and its groups
are there, or it has a first relation that is refused. -/
theorem ofList_ends (declared : List Relation) :
    (∃ registry, ofList declared = .ok registry ∧ Acceptable declared ∧
      registry.Groups declared) ∨
    ∃ accepted refused fault, RefusedFirst declared accepted refused fault ∧
      ¬ Acceptable declared ∧ ofList declared = .error (refused.qualified.refuse fault) := by
  induction declared using List.reverseRecOn with
  | nil => exact Or.inl ⟨{}, rfl, acceptable_nil, groups_empty⟩
  | append_singleton declared relation ih =>
      rw [acceptable_concat]
      rcases ih with ⟨registry, built, acceptable, groups⟩ | ⟨accepted, refused, fault, first,
        unacceptable, failed⟩
      · have next : ofList (declared ++ [relation]) = registry.add relation := by
          rw [ofList_concat, built]
          rfl
        have shortest : ∀ front, front <+: declared → ∃ registry, ofList front = .ok registry :=
          fun _ beginning => exists_ofList_of_prefix beginning built
        rcases add_cases registry relation with ⟨fault, found, ended⟩ | ⟨sound, taken, ended⟩ |
          ⟨sound, fresh, ended⟩
        · refine Or.inr ⟨declared, relation, fault, ?_, ?_, next.trans ended⟩
          · exact ⟨List.prefix_refl _, next.trans ended, shortest, Or.inl found⟩
          · rintro ⟨_, isSound, _⟩
            rw [(Relation.fault?_qualified_eq_none_iff relation).mpr isSound] at found
            cases found
        · have isSound := (Relation.fault?_qualified_eq_none_iff relation).mp sound
          have occupied := (groups.any_sameColumn_iff relation).mp taken
          refine Or.inr ⟨declared, relation, _, ?_, ?_, next.trans ended⟩
          · exact ⟨List.prefix_refl _, next.trans ended, shortest,
              Or.inr ⟨isSound, rfl, occupied⟩⟩
          · exact fun all => all.2.2 occupied
        · have isSound := (Relation.fault?_qualified_eq_none_iff relation).mp sound
          have free := mt (groups.any_sameColumn_iff relation).mpr fresh
          exact Or.inl ⟨_, next.trans ended, ⟨acceptable, isSound, free⟩,
            groups.concat relation sound fresh⟩
      · refine Or.inr ⟨accepted, refused, fault, ?_, fun all => unacceptable all.1, ?_⟩
        · exact { first with beginning := first.beginning.trans (List.prefix_append _ _) }
        · rw [ofList_concat, failed]
          rfl

/-- A list of relations is accepted exactly when every relation is sound and no two of them take
the same column of a child table for one parent table, bare or with its schema.  Its registry holds
nothing but the list: each parent table has its relations in declaration order, the parent tables
ascend and each has a relation, and all relations together are the list sorted by parent table,
those of one table as they stand.  A list that is refused is refused as the shortest of its
beginnings that is, for its last relation. -/
theorem accepts_exactly (declared : List Relation) :
    ((∃ registry, ofList declared = .ok registry) ↔ Acceptable declared) ∧
    (∀ registry, ofList declared = .ok registry → registry.Serves declared) ∧
    ∀ error, ofList declared = .error error →
      ∃ accepted refused fault, RefusedFirst declared accepted refused fault ∧
        error = refused.qualified.refuse fault := by
  rcases ofList_ends declared with ⟨built, success, acceptable, groups⟩ | ⟨accepted, refused,
    fault, first, unacceptable, failed⟩
  · refine ⟨⟨fun _ => acceptable, fun _ => ⟨built, success⟩⟩, ?_, ?_⟩
    · intro registry again
      cases success.symm.trans again
      exact groups.serves
    · intro error failed
      cases success.symm.trans failed
  · refine ⟨⟨?_, fun acceptable => absurd acceptable unacceptable⟩, ?_, ?_⟩
    · rintro ⟨registry, success⟩
      cases failed.symm.trans success
    · intro registry success
      cases failed.symm.trans success
    · intro error again
      cases failed.symm.trans again
      exact ⟨accepted, refused, fault, first, rfl⟩

/-- Relations of two parent tables, one of which is named in two ways. -/
def spelledTwice : List Relation :=
  [⟨"users", "posts", "user_id", .asyncDelete, "id"⟩,
    ⟨"public.accounts", "app.notes", "account_id", .asyncDelete, "note_id"⟩,
    ⟨"public.users", "posts", "editor_id", .asyncNullify, "id"⟩]

theorem accepts_exactly_in_sample :
    (∃ registry, ofList spelledTwice = .ok registry ∧ Acceptable spelledTwice ∧
      registry.Serves spelledTwice ∧
      registry.parentTables = ["public.accounts", "public.users"]) ∧
    ∃ accepted refused fault,
      RefusedFirst (spelledTwice ++ spelledTwice) accepted refused fault ∧
      refused.qualified.refuse fault =
        .invalidDefinition "public.users" "posts" "duplicate column user_id" := by
  constructor
  · obtain ⟨acceptable, serves, _⟩ := accepts_exactly spelledTwice
    cases built : ofList spelledTwice with
    | error error => cases built
    | ok registry =>
        refine ⟨registry, rfl, acceptable.mp ⟨registry, built⟩, serves registry built, ?_⟩
        cases built
        rfl
  · obtain ⟨_, _, refused⟩ := accepts_exactly (spelledTwice ++ spelledTwice)
    have failed : ofList (spelledTwice ++ spelledTwice) =
        .error (.invalidDefinition "public.users" "posts" "duplicate column user_id") := by rfl
    obtain ⟨accepted, relation, fault, first, same⟩ := refused _ failed
    exact ⟨accepted, relation, fault, first, same.symm⟩

end Registry

end LooseKeys

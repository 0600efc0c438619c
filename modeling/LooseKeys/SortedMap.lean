/-
Module: LooseKeys.SortedMap
Purpose: Finite maps kept as entries in ascending key order.
Main exports: SortedMap, SortedMap.get?, SortedMap.upsert, SortedMap.insert, SortedMap.erase,
  SortedMap.modify, SortedMap.ofList
-/

/-!
A map carries the order of its keys in its type, so each key has one entry.  Every operation
recurses on the entries, so closed instances evaluate.
-/

namespace LooseKeys

/-- A finite map as the list of its entries. -/
@[ext]
structure SortedMap (κ α : Type) [LT κ] where
  entries : List (κ × α) := []
  /-- Every key is below all keys after it. -/
  ascending : entries.Pairwise (fun first second => first.1 < second.1) := by decide
deriving DecidableEq, Repr

namespace SortedMap

variable {κ α : Type} [LT κ]

/-- The map without entries. -/
def empty : SortedMap κ α := ⟨[], .nil⟩

instance : Inhabited (SortedMap κ α) := ⟨empty⟩

def keys (map : SortedMap κ α) : List κ := map.entries.map Prod.fst

def values (map : SortedMap κ α) : List α := map.entries.map Prod.snd

def isEmpty (map : SortedMap κ α) : Bool := map.entries.isEmpty

/-- The entries whose values are kept, with what they become. -/
def filterMap {β : Type} (map : SortedMap κ α) (change : α → Option β) : SortedMap κ β where
  entries := map.entries.filterMap
    (fun entry => (change entry.2).map (fun value => (entry.1, value)))
  ascending := by
    refine List.pairwise_filterMap.mpr (map.ascending.imp ?_)
    intro first second below changed atFirst changed' atSecond
    obtain ⟨_, _, rfl⟩ := Option.map_eq_some_iff.mp atFirst
    obtain ⟨_, _, rfl⟩ := Option.map_eq_some_iff.mp atSecond
    exact below

/-- The entries whose keys are kept. -/
def filterKeys (map : SortedMap κ α) (keep : κ → Bool) : SortedMap κ α :=
  ⟨map.entries.filter (fun entry => keep entry.1), map.ascending.filter _⟩

variable [DecidableEq κ]

def get? (map : SortedMap κ α) (key : κ) : Option α :=
  (map.entries.find? (fun entry => entry.1 = key)).map Prod.snd

/-- A value that is found belongs to an entry. -/
theorem mem_entries_of_get? {map : SortedMap κ α} {key : κ} {value : α}
    (found : map.get? key = some value) : (key, value) ∈ map.entries := by
  obtain ⟨⟨other, held⟩, first, rfl⟩ := Option.map_eq_some_iff.mp found
  have same : other = key := by simpa using List.find?_some first
  subst same
  exact List.mem_of_find?_eq_some first

/-- Removes the entry of a key, if there is one. -/
def erase (map : SortedMap κ α) (key : κ) : SortedMap κ α := map.filterKeys (· ≠ key)

/-- Applies `change` to the value of a key, if it has one. -/
def modify (map : SortedMap κ α) (key : κ) (change : α → α) : SortedMap κ α where
  entries := map.entries.map
    (fun entry => if entry.1 = key then (entry.1, change entry.2) else entry)
  ascending := by
    refine List.pairwise_map.mpr (map.ascending.imp ?_)
    intro first second below
    split <;> split <;> exact below

variable [DecidableLT κ]

/-- Sets the entry of `key` to what `change` makes of its present value, in its place. -/
def upsertEntry (key : κ) (change : Option α → α) : List (κ × α) → List (κ × α)
  | [] => [(key, change none)]
  | (other, value) :: rest =>
      if key = other then (other, change (some value)) :: rest
      else if key < other then (key, change none) :: (other, value) :: rest
      else (other, value) :: upsertEntry key change rest

theorem mem_upsertEntry {key : κ} {change : Option α → α} {entries : List (κ × α)}
    {entry : κ × α} (member : entry ∈ upsertEntry key change entries) :
    entry = (key, change none) ∨ entry ∈ entries ∨
      ∃ value, (key, value) ∈ entries ∧ entry = (key, change (some value)) := by
  induction entries with
  | nil => exact Or.inl (List.mem_singleton.mp member)
  | cons first rest ih =>
      obtain ⟨other, value⟩ := first
      simp only [upsertEntry] at member
      split at member
      · rename_i same
        subst same
        rcases List.mem_cons.mp member with changed | later
        · exact Or.inr (Or.inr ⟨value, List.mem_cons_self, changed⟩)
        · exact Or.inr (Or.inl (List.mem_cons_of_mem _ later))
      · split at member
        · exact (List.mem_cons.mp member).imp_right Or.inl
        · rcases List.mem_cons.mp member with old | later
          · exact Or.inr (Or.inl (old ▸ List.mem_cons_self))
          · rcases ih later with new | old | ⟨held, ofRest, changed⟩
            · exact Or.inl new
            · exact Or.inr (Or.inl (List.mem_cons_of_mem _ old))
            · exact Or.inr (Or.inr ⟨held, List.mem_cons_of_mem _ ofRest, changed⟩)

variable [LE κ] [Std.LawfulOrderLT κ] [Std.IsLinearOrder κ]

/-- The entries stay ascending when one of them is set. -/
theorem pairwise_upsertEntry {key : κ} {change : Option α → α} {entries : List (κ × α)}
    (ascending : entries.Pairwise (fun first second => first.1 < second.1)) :
    (upsertEntry key change entries).Pairwise (fun first second => first.1 < second.1) := by
  induction ascending with
  | nil => exact List.pairwise_singleton _ _
  | @cons entry rest above ascends ih =>
      obtain ⟨other, value⟩ := entry
      simp only [upsertEntry]
      split
      · exact List.pairwise_cons.mpr ⟨above, ascends⟩
      · rename_i different
        split
        · rename_i below
          refine List.pairwise_cons.mpr ⟨?_, List.pairwise_cons.mpr ⟨above, ascends⟩⟩
          intro later member
          rcases List.mem_cons.mp member with rfl | ofRest
          · exact below
          · exact Std.lt_trans below (above later ofRest)
        · rename_i notBelow
          have beyond : other < key :=
            Std.lt_of_le_of_ne (Std.not_lt.mp notBelow) (Ne.symm different)
          refine List.pairwise_cons.mpr ⟨?_, ih⟩
          intro later member
          rcases mem_upsertEntry member with rfl | old | ⟨_, _, rfl⟩
          · exact beyond
          · exact above later old
          · exact beyond

/-- Gives `key` the value that `change` makes of its present one. -/
def upsert (map : SortedMap κ α) (key : κ) (change : Option α → α) : SortedMap κ α :=
  ⟨upsertEntry key change map.entries, pairwise_upsertEntry map.ascending⟩

/-- Gives `key` a value, in place of the one it has. -/
def insert (map : SortedMap κ α) (key : κ) (value : α) : SortedMap κ α :=
  map.upsert key (fun _ => value)

/-- Setting a key brings in no entry but its own. -/
theorem mem_entries_insert {map : SortedMap κ α} {key : κ} {value : α} {entry : κ × α}
    (member : entry ∈ (map.insert key value).entries) :
    entry = (key, value) ∨ entry ∈ map.entries := by
  rcases mem_upsertEntry member with new | old | ⟨_, _, changed⟩
  · exact Or.inl new
  · exact Or.inr old
  · exact Or.inl changed

/-- The map of a list of entries; the last entry of a key counts. -/
def ofList (entries : List (κ × α)) : SortedMap κ α :=
  entries.foldl (fun map entry => map.insert entry.1 entry.2) empty

end SortedMap

end LooseKeys

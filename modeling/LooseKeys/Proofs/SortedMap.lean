/-
Module: LooseKeys.Proofs.SortedMap
Purpose: What the operations of a sorted map do to a look-up, and which entries it has.
Main exports: SortedMap.get?_upsert_self, SortedMap.get?_upsert_of_ne, SortedMap.get?_insert_self,
  SortedMap.get?_insert_of_ne, SortedMap.get?_erase_of_ne, SortedMap.get?_modify,
  SortedMap.mem_entries_iff, SortedMap.Stands, SortedMap.mem_entries_ofList
-/
import LooseKeys.SortedMap
import Mathlib.Data.List.Induction

/-!
The keys of a map ascend, so each entry is the one that a look-up of its key finds.  A map that is
made of a list keeps of each key the last entry, the one that stands.
-/

namespace LooseKeys

namespace SortedMap

variable {κ α : Type}

/-- An entry of a list stands when no later entry has its key. -/
def Stands (entries : List (κ × α)) (entry : κ × α) : Prop :=
  ∃ front back, entries = front ++ entry :: back ∧ ∀ later ∈ back, later.1 ≠ entry.1

/-- The next entry stands, and of the others those with another key. -/
theorem stands_concat {entries : List (κ × α)} {last entry : κ × α} :
    Stands (entries ++ [last]) entry ↔ entry = last ∨ entry.1 ≠ last.1 ∧ Stands entries entry := by
  constructor
  · rintro ⟨front, back, split, apart⟩
    rcases List.eq_nil_or_concat back with rfl | ⟨back, final, rfl⟩
    · obtain ⟨_, ends⟩ := List.append_inj' split rfl
      exact Or.inl (List.singleton_inj.mp ends.symm)
    · rw [List.concat_eq_append, ← List.cons_append, ← List.append_assoc] at split
      obtain ⟨earlier, ends⟩ := List.append_inj' split rfl
      obtain rfl := List.singleton_inj.mp ends
      refine Or.inr ⟨Ne.symm (apart last (by simp)), front, back, earlier, ?_⟩
      exact fun later member => apart later (by simp [member])
  · rintro (rfl | ⟨different, front, back, rfl, apart⟩)
    · exact ⟨entries, [], rfl, by simp⟩
    · refine ⟨front, back ++ [last], by simp, ?_⟩
      intro later member
      rcases List.mem_append.mp member with ofBack | new
      · exact apart later ofBack
      · rw [List.mem_singleton.mp new]
        exact different.symm

theorem mem_of_stands {entries : List (κ × α)} {entry : κ × α} (stands : Stands entries entry) :
    entry ∈ entries := by
  obtain ⟨front, back, rfl, _⟩ := stands
  exact List.mem_append_right _ List.mem_cons_self

/-- Some entry stands for each key of a list. -/
theorem exists_stands_of_mem [DecidableEq κ] {entries : List (κ × α)} {entry : κ × α}
    (member : entry ∈ entries) : ∃ value, Stands entries (entry.1, value) := by
  induction entries using List.reverseRecOn with
  | nil => cases member
  | append_singleton entries last ih =>
      by_cases same : entry.1 = last.1
      · rw [same]
        exact ⟨last.2, stands_concat.mpr (Or.inl rfl)⟩
      · rcases List.mem_append.mp member with earlier | new
        · obtain ⟨value, stands⟩ := ih earlier
          exact ⟨value, stands_concat.mpr (Or.inr ⟨same, stands⟩)⟩
        · rw [List.mem_singleton.mp new] at same
          exact absurd rfl same

variable [LT κ]

theorem pairwise_keys (map : SortedMap κ α) : map.keys.Pairwise (· < ·) :=
  List.pairwise_map.mpr map.ascending

variable [DecidableEq κ]

@[simp] theorem get?_erase_self (map : SortedMap κ α) (key : κ) :
    (map.erase key).get? key = none := by
  simp only [get?, erase, filterKeys, List.find?_filter, Option.map_eq_none_iff, List.find?_eq_none]
  simp

@[simp] theorem erase_erase (map : SortedMap κ α) (key : κ) :
    (map.erase key).erase key = map.erase key := by
  simp [erase, filterKeys]

theorem get?_erase_of_ne (map : SortedMap κ α) {key other : κ} (ne : other ≠ key) :
    (map.erase key).get? other = map.get? other := by
  simp only [get?, erase, filterKeys, List.find?_filter]
  congr 2
  funext entry
  by_cases same : entry.1 = other
  · simp [same, ne]
  · simp [same]

/-- A change of one value leaves the keys, and the values of the other keys. -/
theorem get?_modify (map : SortedMap κ α) (key other : κ) (change : α → α) :
    (map.modify key change).get? other =
      (map.get? other).map (fun value => if other = key then change value else value) := by
  obtain ⟨entries, ascending⟩ := map
  simp only [get?, modify]
  clear ascending
  induction entries with
  | nil => rfl
  | cons entry rest ih =>
      by_cases here : entry.1 = other
      · subst here
        by_cases changed : entry.1 = key
        · simp [changed]
        · simp [changed]
      · by_cases changed : entry.1 = key
        · simpa [changed, changed ▸ here] using ih
        · simpa [changed, here] using ih

section Laws

variable [DecidableLT κ] [LE κ] [Std.LawfulOrderLT κ] [Std.IsLinearOrder κ]

/-- A change at one key leaves the values of the other keys. -/
theorem get?_upsert_of_ne (map : SortedMap κ α) {key other : κ} (ne : other ≠ key)
    (change : Option α → α) : (map.upsert key change).get? other = map.get? other := by
  obtain ⟨entries, ascending⟩ := map
  simp only [get?, upsert]
  clear ascending
  induction entries with
  | nil => simp [upsertEntry, Ne.symm ne]
  | cons entry rest ih =>
      simp only [upsertEntry]
      split
      · rename_i same
        subst same
        simp [Ne.symm ne]
      · split
        · simp [Ne.symm ne]
        · by_cases found : entry.1 = other
          · simp [found]
          · simpa [found] using ih

/-- The change is made to the value that a look-up finds. -/
@[simp] theorem get?_upsert_self (map : SortedMap κ α) (key : κ) (change : Option α → α) :
    (map.upsert key change).get? key = some (change (map.get? key)) := by
  obtain ⟨entries, ascending⟩ := map
  simp only [get?, upsert]
  induction ascending with
  | nil => simp [upsertEntry]
  | @cons entry rest above _ ih =>
      simp only [upsertEntry]
      split
      · rename_i same
        simp [same]
      · rename_i different
        split
        · rename_i below
          have absent : (entry :: rest).find? (fun other => other.1 = key) = none := by
            apply List.find?_eq_none.mpr
            intro other member same
            rcases List.mem_cons.mp member with rfl | later
            · exact different (of_decide_eq_true same).symm
            · have beyond := Std.lt_trans below (above other later)
              exact Std.ne_of_lt beyond (of_decide_eq_true same).symm
          rw [absent]
          simp
        · rw [List.find?_cons_of_neg (by simpa using Ne.symm different),
            List.find?_cons_of_neg (by simpa using Ne.symm different)]
          exact ih

@[simp] theorem get?_insert_self (map : SortedMap κ α) (key : κ) (value : α) :
    (map.insert key value).get? key = some value :=
  get?_upsert_self map key _

theorem get?_insert_of_ne (map : SortedMap κ α) {key other : κ} (ne : other ≠ key) (value : α) :
    (map.insert key value).get? other = map.get? other :=
  get?_upsert_of_ne map ne _

omit [DecidableLT κ] [Std.IsLinearOrder κ] in
/-- Every entry is the one that a look-up finds. -/
theorem get?_eq_some (map : SortedMap κ α) {key : κ} {value : α}
    (member : (key, value) ∈ map.entries) : map.get? key = some value := by
  obtain ⟨entries, ascending⟩ := map
  simp only [get?] at member ⊢
  induction ascending with
  | nil => cases member
  | @cons entry rest above _ ih =>
      rcases List.mem_cons.mp member with rfl | ofRest
      · simp
      · have different : entry.1 ≠ key := Std.ne_of_lt (above _ ofRest)
        simpa [different] using ih ofRest

omit [DecidableLT κ] [Std.IsLinearOrder κ] in
theorem mem_entries_iff {map : SortedMap κ α} {entry : κ × α} :
    entry ∈ map.entries ↔ map.get? entry.1 = some entry.2 :=
  ⟨map.get?_eq_some, mem_entries_of_get?⟩

theorem mem_entries_insert_iff {map : SortedMap κ α} {key : κ} {value : α} {entry : κ × α} :
    entry ∈ (map.insert key value).entries ↔
      entry = (key, value) ∨ entry.1 ≠ key ∧ entry ∈ map.entries := by
  rw [mem_entries_iff, mem_entries_iff]
  obtain ⟨other, held⟩ := entry
  by_cases same : other = key
  · subst same
    simp [eq_comm]
  · rw [get?_insert_of_ne map same]
    simp [same]

/-! ### The map of a list -/

theorem ofList_concat (entries : List (κ × α)) (last : κ × α) :
    ofList (entries ++ [last]) = (ofList entries).insert last.1 last.2 := by
  unfold ofList
  rw [List.foldl_append]
  rfl

/-- Of the entries of a list its map keeps those that stand. -/
theorem mem_entries_ofList {entries : List (κ × α)} {entry : κ × α} :
    entry ∈ (ofList entries).entries ↔ Stands entries entry := by
  induction entries using List.reverseRecOn with
  | nil => simp [ofList, empty, Stands]
  | append_singleton entries last ih =>
      rw [ofList_concat, mem_entries_insert_iff, ih, stands_concat]

end Laws

end SortedMap

end LooseKeys

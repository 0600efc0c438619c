/-
Module: LooseKeys.Proofs.Sorting
Purpose: What stable sorting by a key keeps, and what is left of a sorted list without repetition.
Main exports: eq_of_ascending, lt_of_mem_drop, pairwise_mergeSort, filter_mergeSort,
  mergeSort_of_ascending, eq_mergeSort, flatMap_filter_eq_mergeSort, mem_eraseReps,
  pairwise_eraseReps
-/
import Mathlib.Data.List.Nodup

/-!
A stable sort is told by two facts: the keys ascend, and the members of each key stand as they did
before.  Leaving out repeated neighbours makes a list strictly ascending only when it was sorted
first, since only then do all equal members stand together.
-/

namespace LooseKeys

section Ascending

variable {α κ : Type} [LE κ] [LT κ] [Std.LawfulOrderLT κ] {key : α → κ}

/-- Lists that ascend by a key and have the same members are the same. -/
theorem eq_of_ascending [Std.IsPreorder κ] {first second : List α}
    (ascends : first.Pairwise (fun x y => key x < key y))
    (ascends' : second.Pairwise (fun x y => key x < key y))
    (same : ∀ x, x ∈ first ↔ x ∈ second) : first = second := by
  have nodup {list : List α} (ascends : list.Pairwise (fun x y => key x < key y)) : list.Nodup :=
    ascends.imp (fun below equal => Std.ne_of_lt below (congrArg key equal))
  have perm : first.Perm second :=
    (List.perm_ext_iff_of_nodup (nodup ascends) (nodup ascends')).mpr same
  refine perm.eq_of_pairwise ?_ ascends ascends'
  intro x y _ _ below above
  exact absurd (Std.lt_trans below above) Std.lt_irrefl

omit [LE κ] [Std.LawfulOrderLT κ] in
/-- Of ascending keys, those that are left are above those that are taken. -/
theorem lt_of_mem_drop {list : List α}
    (ascending : list.Pairwise (fun first second => key first < key second)) {count : Nat}
    {taken left : α} (ofTake : taken ∈ list.take count) (ofDrop : left ∈ list.drop count) :
    key taken < key left := by
  rw [← List.take_append_drop count list] at ascending
  exact (List.pairwise_append.mp ascending).2.2 taken ofTake left ofDrop

end Ascending

section StableSort

variable {α κ : Type} [LE κ] [DecidableLE κ] [DecidableEq κ] [Std.IsLinearOrder κ]
  {key : α → κ}

omit [DecidableLE κ] in
/-- The first key of an ascending list is at most every key that the list shares with another. -/
theorem key_head_le {x y : α} {rest other : List α}
    (ascends : (x :: rest).Pairwise (fun x y => key x ≤ key y)) (ofOther : y ∈ other)
    (same : (x :: rest).filter (key · = key y) = other.filter (key · = key y)) :
    key x ≤ key y := by
  have member : y ∈ (x :: rest).filter (key · = key y) := by
    rw [same]
    exact List.mem_filter.mpr ⟨ofOther, by simp⟩
  rcases List.mem_cons.mp (List.mem_filter.mp member).1 with rfl | later
  · exact Std.le_refl _
  · exact (List.pairwise_cons.mp ascends).1 y later

omit [DecidableLE κ] in
/-- Lists whose keys ascend are equal when they have the same members of each key in the same
order. -/
theorem eq_of_filter_eq {first second : List α}
    (ascends : first.Pairwise (fun x y => key x ≤ key y))
    (ascends' : second.Pairwise (fun x y => key x ≤ key y))
    (same : ∀ k, first.filter (key · = k) = second.filter (key · = k)) : first = second := by
  induction first generalizing second with
  | nil =>
      cases second with
      | nil => rfl
      | cons y rest =>
          have nothing := same (key y)
          simp at nothing
  | cons x rest ih =>
      cases second with
      | nil =>
          have nothing := same (key x)
          simp at nothing
      | cons y rest' =>
          have equal : key x = key y :=
            Std.le_antisymm (key_head_le ascends List.mem_cons_self (same _))
              (key_head_le ascends' List.mem_cons_self (same _).symm)
          have heads : x = y := by
            have here := same (key x)
            rw [List.filter_cons_of_pos (by simp), List.filter_cons_of_pos (by simp [equal])]
              at here
            exact (List.cons.inj here).1
          subst heads
          apply congrArg (List.cons x)
          apply ih (List.pairwise_cons.mp ascends).2 (List.pairwise_cons.mp ascends').2
          intro k
          have both := same k
          by_cases here : key x = k
          · rw [List.filter_cons_of_pos (by simp [here]), List.filter_cons_of_pos (by simp [here])]
              at both
            exact (List.cons.inj both).2
          · rwa [List.filter_cons_of_neg (by simp [here]), List.filter_cons_of_neg (by simp [here])]
              at both

omit [DecidableEq κ] in
/-- The comparison of keys is one by which lists can be sorted. -/
theorem key_trans_total (key : α → κ) :
    (∀ x y z, decide (key x ≤ key y) → decide (key y ≤ key z) → decide (key x ≤ key z)) ∧
      ∀ x y, decide (key x ≤ key y) || decide (key y ≤ key x) := by
  constructor
  · intro x y z first second
    rw [decide_eq_true_eq] at first second ⊢
    exact Std.le_trans first second
  · intro x y
    rw [Bool.or_eq_true, decide_eq_true_eq, decide_eq_true_eq]
    exact Std.le_total

omit [DecidableEq κ] in
/-- The keys ascend after sorting. -/
theorem pairwise_mergeSort (list : List α) :
    (list.mergeSort (fun x y => key x ≤ key y)).Pairwise (fun x y => key x ≤ key y) := by
  obtain ⟨trans, total⟩ := key_trans_total key
  exact (List.pairwise_mergeSort trans total list).imp of_decide_eq_true

/-- Members of one key keep their order. -/
theorem filter_mergeSort (list : List α) (k : κ) :
    (list.mergeSort (fun x y => key x ≤ key y)).filter (key · = k)
      = list.filter (key · = k) := by
  obtain ⟨trans, total⟩ := key_trans_total key
  have ties : (list.filter (key · = k)).Pairwise (fun x y => decide (key x ≤ key y)) := by
    apply List.pairwise_of_forall_mem_list
    intro x ofX y ofY
    have atX := of_decide_eq_true (List.mem_filter.mp ofX).2
    have atY := of_decide_eq_true (List.mem_filter.mp ofY).2
    exact decide_eq_true (Std.le_of_eq (atX.trans atY.symm))
  have kept := (List.sublist_mergeSort trans total ties List.filter_sublist).filter (key · = k)
  rw [List.filter_filter] at kept
  simp only [Bool.and_self] at kept
  symm
  apply kept.eq_of_length
  exact ((List.mergeSort_perm list _).filter _).length_eq.symm

omit [DecidableEq κ] [Std.IsLinearOrder κ] in
/-- Sorting leaves a list alone whose keys ascend already. -/
theorem mergeSort_of_ascending [LT κ] [Std.LawfulOrderLT κ] {list : List α}
    (ascending : list.Pairwise (fun first second => key first < key second)) :
    list.mergeSort (fun x y => key x ≤ key y) = list :=
  List.mergeSort_of_pairwise
    (ascending.imp (fun below => decide_eq_true (Std.le_of_lt below)))

/-- A list is the stable sort of another when its keys ascend and the members of each key stand as
they do in the other. -/
theorem eq_mergeSort {sorted list : List α} (ascends : sorted.Pairwise (fun x y => key x ≤ key y))
    (same : ∀ k, sorted.filter (key · = k) = list.filter (key · = k)) :
    sorted = list.mergeSort (fun x y => key x ≤ key y) := by
  apply eq_of_filter_eq ascends (pairwise_mergeSort list)
  intro k
  rw [same, filter_mergeSort]

omit [LE κ] [DecidableLE κ] [Std.IsLinearOrder κ] in
/-- Of groups gathered key by key, only that of `k` has members with this key. -/
theorem filter_flatMap_filter (list : List α) {keys : List κ} (distinct : keys.Nodup) (k : κ) :
    (keys.flatMap (fun k' => list.filter (key · = k'))).filter (key · = k)
      = if k ∈ keys then list.filter (key · = k) else [] := by
  induction keys with
  | nil => rfl
  | cons k' rest ih =>
      obtain ⟨new, distinctRest⟩ := List.nodup_cons.mp distinct
      rw [List.flatMap_cons, List.filter_append, ih distinctRest]
      by_cases here : k' = k
      · subst here
        rw [if_neg new, if_pos List.mem_cons_self, List.append_nil, List.filter_filter]
        simp only [Bool.and_self]
      · have apart : (list.filter (key · = k')).filter (key · = k) = [] := by
          apply List.filter_eq_nil_iff.mpr
          intro x member
          have atX := of_decide_eq_true (List.mem_filter.mp member).2
          rw [decide_eq_true_eq, atX]
          exact here
        rw [apart, List.nil_append]
        simp only [List.mem_cons, Ne.symm here, false_or]

/-- Gathering the members of each key, key by key in ascending order, is the stable sort. -/
theorem flatMap_filter_eq_mergeSort [LT κ] [Std.LawfulOrderLT κ] {list : List α} {keys : List κ}
    (ascends : keys.Pairwise (· < ·)) (covered : ∀ x ∈ list, key x ∈ keys) :
    keys.flatMap (fun k => list.filter (key · = k)) =
      list.mergeSort (fun x y => key x ≤ key y) := by
  apply eq_mergeSort
  · apply List.pairwise_flatMap.mpr
    constructor
    · intro k _
      apply List.pairwise_of_forall_mem_list
      intro x ofX y ofY
      have atX := of_decide_eq_true (List.mem_filter.mp ofX).2
      have atY := of_decide_eq_true (List.mem_filter.mp ofY).2
      exact Std.le_of_eq (atX.trans atY.symm)
    · refine ascends.imp ?_
      intro k k' less x ofX y ofY
      have atX := of_decide_eq_true (List.mem_filter.mp ofX).2
      have atY := of_decide_eq_true (List.mem_filter.mp ofY).2
      rw [atX, atY]
      exact Std.le_of_lt less
  · intro k
    rw [filter_flatMap_filter list (ascends.imp Std.ne_of_lt) k]
    split
    · rfl
    · rename_i absent
      symm
      apply List.filter_eq_nil_iff.mpr
      intro x member
      rw [decide_eq_true_eq]
      rintro rfl
      exact absent (covered x member)

end StableSort

section Distinct

variable {κ : Type} [DecidableEq κ]

/-- Of two equal neighbours the second is kept. -/
theorem eraseReps_cons_cons (x y : κ) (rest : List κ) : (x :: y :: rest).eraseReps =
    if x = y then (y :: rest).eraseReps else x :: (y :: rest).eraseReps := by
  have loop (list kept : List κ) (z : κ) : List.eraseRepsBy.loop (· == ·) z list kept
      = kept.reverse ++ List.eraseRepsBy.loop (· == ·) z list [] := by
    induction list generalizing kept z with
    | nil => simp [List.eraseRepsBy.loop]
    | cons w list ih =>
        simp only [List.eraseRepsBy.loop]
        split
        · exact ih kept z
        · rw [ih (z :: kept) w, ih [z] w]
          simp
  unfold List.eraseReps List.eraseRepsBy
  simp only [List.eraseRepsBy.loop]
  by_cases same : x = y
  · subst same
    simp
  · rw [if_neg same]
    simp only [beq_eq_false_iff_ne.mpr same]
    rw [loop rest [x] y]
    rfl

/-- No member is lost. -/
@[simp] theorem mem_eraseReps {x : κ} {list : List κ} : x ∈ list.eraseReps ↔ x ∈ list := by
  induction list with
  | nil => exact Iff.rfl
  | cons y rest ih =>
      cases rest with
      | nil => exact Iff.rfl
      | cons z others =>
          rw [eraseReps_cons_cons]
          split
          · rename_i same
            rw [ih, same, List.mem_cons (b := z) (l := z :: others), List.mem_cons]
            simp
          · rw [List.mem_cons, ih, List.mem_cons (a := x) (b := y)]

/-- After sorting no member is there twice. -/
theorem pairwise_eraseReps [LE κ] [LT κ] [Std.LawfulOrderLT κ] [Std.IsLinearOrder κ]
    {list : List κ} (ascends : list.Pairwise (· ≤ ·)) : list.eraseReps.Pairwise (· < ·) := by
  induction list with
  | nil => exact List.Pairwise.nil
  | cons x rest ih =>
      cases rest with
      | nil => exact List.pairwise_singleton _ _
      | cons y others =>
          obtain ⟨below, ascendsRest⟩ := List.pairwise_cons.mp ascends
          rw [eraseReps_cons_cons]
          split
          · exact ih ascendsRest
          · rename_i different
            refine List.pairwise_cons.mpr ⟨?_, ih ascendsRest⟩
            intro z member
            have less := Std.lt_of_le_of_ne (below y List.mem_cons_self) different
            rcases List.mem_cons.mp (mem_eraseReps.mp member) with rfl | later
            · exact less
            · exact Std.lt_of_lt_of_le less ((List.pairwise_cons.mp ascendsRest).1 z later)

end Distinct

end LooseKeys

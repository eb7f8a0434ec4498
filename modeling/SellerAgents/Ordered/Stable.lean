import Mathlib.Data.List.Sort

namespace Ordered

variable {α : Type}

/-- A stable sort by a number. -/
def byKey (key : α → Int) (l : List α) : List α := l.mergeSort fun a b => decide (key a ≤ key b)

/-- An element comes before another by its number, and by its position where they are equal. -/
def Before (key : α → Int) (a b : α × Nat) : Prop :=
  key a.1 < key b.1 ∨ (key a.1 = key b.1 ∧ a.2 < b.2)

theorem Before.asymm {key : α → Int} {a b : α × Nat} (h : Before key a b) : ¬ Before key b a := by
  unfold Before at *
  omega

section Sorting

variable (key : α → Int) (l : List α)

theorem byKey_perm : (byKey key l).Perm l := List.mergeSort_perm _ _

theorem key_trans (a b c : α) (hab : decide (key a ≤ key b) = true)
    (hbc : decide (key b ≤ key c) = true) : decide (key a ≤ key c) = true := by
  rw [decide_eq_true_eq] at *
  omega

theorem key_total (a b : α) : (decide (key a ≤ key b) || decide (key b ≤ key a)) = true := by
  rw [Bool.or_eq_true, decide_eq_true_eq, decide_eq_true_eq]
  omega

theorem pairwise_byKey : (byKey key l).Pairwise fun a b => key a ≤ key b :=
  (List.pairwise_mergeSort (key_trans key) (key_total key) l).imp of_decide_eq_true

/-- The elements of one number stay in the order they had. -/
theorem filter_key_byKey (k : Int) :
    (byKey key l).filter (fun a => key a = k) = l.filter fun a => key a = k := by
  have hequal : (l.filter fun a => key a = k).Pairwise fun a b => decide (key a ≤ key b) = true := by
    refine List.pairwise_of_forall_mem_list fun a ha b hb => ?_
    have hak := (List.mem_filter.mp ha).2
    have hbk := (List.mem_filter.mp hb).2
    rw [decide_eq_true_eq] at *
    omega
  have hsub : (l.filter fun a => key a = k).Sublist (byKey key l) :=
    List.sublist_mergeSort (key_trans key) (key_total key) hequal List.filter_sublist
  have hfilter := hsub.filter fun a => key a = k
  rw [List.filter_filter] at hfilter
  simp only [Bool.and_self] at hfilter
  refine (hfilter.eq_of_length ?_).symm
  exact ((byKey_perm key l).filter _).length_eq.symm

end Sorting

/-- Elements that carry their positions are sorted by number and position. -/
theorem pairwise_before {key : α → Int} {l : List (α × Nat)} (h : l.Pairwise fun a b => a.2 < b.2) :
    (byKey (fun a => key a.1) l).Pairwise (Before key) := by
  rw [List.pairwise_iff_forall_sublist]
  intro a b hab
  have hle := List.pairwise_iff_forall_sublist.mp (pairwise_byKey (fun a => key a.1) l) hab
  by_cases heq : key a.1 = key b.1
  · have hfilter := hab.filter fun c => key c.1 = key b.1
    rw [filter_key_byKey (fun c : α × Nat => key c.1) l (key b.1)] at hfilter
    simp only [List.filter_cons, heq, decide_true, if_true, List.filter_nil] at hfilter
    exact .inr ⟨heq, List.pairwise_iff_forall_sublist.mp h (hfilter.trans List.filter_sublist)⟩
  · exact .inl (by omega)

theorem pairwise_zipIdx (l : List α) : l.zipIdx.Pairwise fun a b => a.2 < b.2 := by
  have hrange : (l.zipIdx.map Prod.snd).Pairwise (· < ·) := by
    rw [List.zipIdx_map_snd]
    exact List.pairwise_lt_range'
  exact List.pairwise_map.mp hrange

theorem map_fst_byKey (key : α → Int) (l : List (α × Nat)) :
    (byKey (fun a => key a.1) l).map Prod.fst = byKey key (l.map Prod.fst) :=
  List.map_mergeSort fun _ _ _ _ => rfl

/-- The sort of a part of a list is that part of the sort. -/
theorem filter_byKey (key : α → Int) (p : α → Bool) (l : List α) :
    (byKey key l).filter p = byKey key (l.filter p) := by
  have hfst : ∀ m : List (α × Nat), (m.filter fun a => p a.1).map Prod.fst = (m.map Prod.fst).filter p :=
    fun m => (List.filter_map ..).symm
  have hzip : l.zipIdx.map Prod.fst = l := List.zipIdx_map_fst 0 l
  have hsorted : (byKey (fun a => key a.1) l.zipIdx).filter (fun a => p a.1) =
      byKey (fun a => key a.1) (l.zipIdx.filter fun a => p a.1) := by
    refine @List.Perm.eq_of_pairwise _ (Before key) _ _ ?_ ?_ ?_ ?_
    · exact fun a b _ _ hab hba => absurd hba hab.asymm
    · exact (pairwise_before (pairwise_zipIdx l)).filter _
    · exact pairwise_before ((pairwise_zipIdx l).filter _)
    · exact ((byKey_perm _ _).filter _).trans (byKey_perm _ _).symm
  have hmap := congrArg (List.map Prod.fst) hsorted
  rw [hfst, map_fst_byKey, map_fst_byKey, hfst, hzip] at hmap
  exact hmap

end Ordered

import Mathlib.Data.List.Basic
import Mathlib.Data.Nat.Basic
import Mathlib.Order.Lattice

/-!
# Order statistics

The element at an index of the sorted list has no more elements of the list below it than the
index says, and more than that not above it.
-/

namespace RemoteInfra.Library

variable {α : Type*} [LinearOrder α] {l : List α} {i j : ℕ} {x y : α}

theorem pairwise_mergeSort_le (l : List α) : l.mergeSort.Pairwise (· ≤ ·) := by
  let before (a b : α) : Bool := decide (a ≤ b)
  have htrans : ∀ a b c, before a b → before b c → before a c := by
    intro a b c hab hbc
    exact decide_eq_true ((of_decide_eq_true hab).trans (of_decide_eq_true hbc))
  have htotal : ∀ a b, before a b || before b a := by
    intro a b
    simpa [before] using le_total a b
  exact (List.pairwise_mergeSort htrans htotal l).imp fun hab ↦ of_decide_eq_true hab

/-- A later element of a sorted list is no smaller. -/
theorem le_of_index_le (h : l.Pairwise (· ≤ ·)) (hij : i ≤ j) (hx : l[i]? = some x)
    (hy : l[j]? = some y) : x ≤ y := by
  obtain ⟨hi, rfl⟩ := List.getElem?_eq_some_iff.mp hx
  obtain ⟨hj, rfl⟩ := List.getElem?_eq_some_iff.mp hy
  rcases hij.eq_or_lt with rfl | hlt
  · exact le_rfl
  · exact List.pairwise_iff_getElem.mp h i j hi hj hlt

theorem countP_lt_le_of_sorted (h : l.Pairwise (· ≤ ·)) (hx : l[i]? = some x) :
    l.countP (· < x) ≤ i := by
  have hnone : (l.drop i).countP (· < x) = 0 := by
    refine List.countP_eq_zero.mpr fun y hy ↦ ?_
    obtain ⟨k, hk⟩ := List.mem_iff_getElem?.mp hy
    rw [List.getElem?_drop] at hk
    simpa using le_of_index_le h (Nat.le_add_right i k) hx hk
  calc l.countP (· < x) = (l.take i).countP (· < x) + (l.drop i).countP (· < x) := by
        rw [← List.countP_append, List.take_append_drop]
    _ ≤ i := by
        rw [hnone, Nat.add_zero]
        exact List.countP_le_length.trans (List.length_take_le i l)

theorem lt_countP_le_of_sorted (h : l.Pairwise (· ≤ ·)) (hx : l[i]? = some x) :
    i < l.countP (· ≤ x) := by
  have hi : i < l.length := (List.getElem?_eq_some_iff.mp hx).1
  have hall : (l.take (i + 1)).countP (· ≤ x) = i + 1 := by
    rw [List.countP_eq_length.mpr fun y hy ↦ ?_, List.length_take, Nat.min_eq_left hi]
    obtain ⟨k, hk⟩ := List.mem_iff_getElem?.mp hy
    rw [List.getElem?_take] at hk
    split_ifs at hk with hlt
    simpa using le_of_index_le h (Nat.le_of_lt_succ hlt) hk hx
  calc i < (l.take (i + 1)).countP (· ≤ x) := by omega
    _ ≤ l.countP (· ≤ x) := (List.take_sublist _ _).countP_le

/-- `x` is the element of rank `i`, counted from 0. -/
structure HasRank (l : List α) (i : ℕ) (x : α) : Prop where
  mem : x ∈ l
  below : l.countP (· < x) ≤ i
  notAbove : i < l.countP (· ≤ x)

theorem hasRank_mergeSort (hx : l.mergeSort[i]? = some x) : HasRank l i x where
  mem := List.mem_mergeSort.mp (List.mem_of_getElem? hx)
  below := by
    rw [← (List.mergeSort_perm l _).countP_eq]
    exact countP_lt_le_of_sorted (pairwise_mergeSort_le l) hx
  notAbove := by
    rw [← (List.mergeSort_perm l _).countP_eq]
    exact lt_countP_le_of_sorted (pairwise_mergeSort_le l) hx

end RemoteInfra.Library

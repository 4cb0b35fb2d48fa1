import Mathlib.Data.List.Sort

/-!
# Records of a list

Read from left to right, an element is a record if its key exceeds every key before it and the
bound that one starts from.  Records keep their order, and no two have the same key.
-/

namespace RemoteInfra.Library

variable {α β : Type*} [LinearOrder β] {key : α → β}

def records (key : α → β) : β → List α → List α
  | _, [] => []
  | last, x :: xs => if last < key x then x :: records key (key x) xs else records key last xs

/-- The bound that is left after a list. -/
def highest (key : α → β) (last : β) (xs : List α) : β := xs.foldl (fun m x ↦ max m (key x)) last

@[simp] theorem records_nil (last : β) : records key last [] = [] := rfl

@[simp] theorem highest_nil (last : β) : highest key last [] = last := rfl

theorem highest_cons (last : β) (x : α) (xs : List α) :
    highest key last (x :: xs) = highest key (max last (key x)) xs := rfl

theorem highest_concat (last : β) (xs : List α) (x : α) :
    highest key last (xs ++ [x]) = max (highest key last xs) (key x) := by
  rw [highest, List.foldl_append]
  rfl

theorem records_append (last : β) (xs ys : List α) :
    records key last (xs ++ ys) =
      records key last xs ++ records key (highest key last xs) ys := by
  induction xs generalizing last with
  | nil => rfl
  | cons x xs ih =>
      rw [List.cons_append, records, records, highest_cons]
      split_ifs with h
      · rw [ih, List.cons_append, max_eq_right h.le]
      · rw [ih, max_eq_left (not_lt.mp h)]

/-- A list that goes on with a record has it as its last record. -/
theorem records_concat_of_lt {last : β} {xs : List α} {x : α} (h : highest key last xs < key x) :
    records key last (xs ++ [x]) = records key last xs ++ [x] := by
  rw [records_append, records, if_pos h, records_nil]

theorem records_concat_of_le {last : β} {xs : List α} {x : α} (h : key x ≤ highest key last xs) :
    records key last (xs ++ [x]) = records key last xs := by
  rw [records_append, records, if_neg h.not_gt, records_nil, List.append_nil]

theorem records_sublist (last : β) (xs : List α) : (records key last xs).Sublist xs := by
  induction xs generalizing last with
  | nil => exact .slnil
  | cons x xs ih =>
      rw [records]
      split_ifs with h
      · exact (ih _).cons_cons x
      · exact (ih _).cons x

theorem lt_of_mem_records {last : β} {xs : List α} {x : α} (h : x ∈ records key last xs) :
    last < key x := by
  induction xs generalizing last with
  | nil => cases h
  | cons y xs ih =>
      rw [records] at h
      split_ifs at h with hy
      · rcases List.mem_cons.mp h with rfl | hx
        · exact hy
        · exact hy.trans (ih hx)
      · exact ih h

theorem records_pairwise (last : β) (xs : List α) :
    (records key last xs).Pairwise fun x y ↦ key x < key y := by
  induction xs generalizing last with
  | nil => exact .nil
  | cons x xs ih =>
      rw [records]
      split_ifs with h
      · exact .cons (fun y hy ↦ lt_of_mem_records hy) (ih _)
      · exact ih _

/-- In a list whose keys increase above the bound every element is a record. -/
theorem records_eq_self {last : β} {xs : List α} (habove : ∀ x ∈ xs, last < key x)
    (h : xs.Pairwise fun x y ↦ key x < key y) : records key last xs = xs := by
  induction xs generalizing last with
  | nil => rfl
  | cons x xs ih =>
      obtain ⟨hfirst, hrest⟩ := List.pairwise_cons.mp h
      rw [records, if_pos (habove x List.mem_cons_self), ih hfirst hrest]

/-- Whatever is drawn from a list of increasing keys, in any order and any number of times, its
records are a part of that list in its own order. -/
theorem records_sublist_of_subset {xs ys : List α} (hsubset : xs ⊆ ys)
    (h : ys.Pairwise fun x y ↦ key x < key y) (last : β) : (records key last xs).Sublist ys := by
  have hrecords : (records key last xs).Pairwise fun x y ↦ key x < key y :=
    records_pairwise last xs
  have hirrefl : ∀ x y : α, key x < key y → x ≠ y := by
    rintro x y hlt rfl
    exact lt_irrefl _ hlt
  have hnodup : (records key last xs).Nodup := hrecords.imp (hirrefl _ _)
  have : Std.Antisymm fun x y : α ↦ key x < key y := ⟨fun _ _ h h' ↦ absurd h h'.asymm⟩
  have hsubperm := List.subperm_of_subset hnodup
    fun x hx ↦ hsubset ((records_sublist last xs).subset hx)
  exact List.sublist_of_subperm_of_pairwise hsubperm hrecords h

end RemoteInfra.Library

import Mathlib.Algebra.BigOperators.Group.Finset.Basic
import Mathlib.Algebra.Order.Monoid.Defs

/-!
# Sums over the neighbours of a list

What is summed over neighbours grows by one term with every new element.  When the elements
of a key lie side by side, the sums over the neighbours within each key are one sum over the
neighbours of the whole list.
-/

namespace RemoteInfra.Library

variable {α κ M : Type*}

section Sum

variable [AddCommMonoid M] {f g : α → α → M}

/-- `f a b` for each `b` that comes right after `a`. -/
def sumAdjacent (f : α → α → M) : List α → M
  | a :: b :: l => f a b + sumAdjacent f (b :: l)
  | _ => 0

@[simp] theorem sumAdjacent_nil (f : α → α → M) : sumAdjacent f [] = 0 := rfl

@[simp] theorem sumAdjacent_singleton (f : α → α → M) (a : α) : sumAdjacent f [a] = 0 := rfl

@[simp] theorem sumAdjacent_cons_cons (f : α → α → M) (a b : α) (l : List α) :
    sumAdjacent f (a :: b :: l) = f a b + sumAdjacent f (b :: l) := rfl

/-- A new last element adds its term with the one that was last. -/
theorem sumAdjacent_concat (f : α → α → M) (l : List α) (b : α) :
    sumAdjacent f (l ++ [b]) = sumAdjacent f l + (l.getLast?.map (f · b)).getD 0 := by
  induction l with
  | nil => simp
  | cons a l ih =>
      cases l with
      | nil => simp
      | cons a' l =>
          rw [List.cons_append, List.cons_append, sumAdjacent_cons_cons, sumAdjacent_cons_cons,
            ← List.cons_append, ih, List.getLast?_cons_cons, add_assoc]

theorem sumAdjacent_congr {l : List α} (h : l.IsChain fun a b ↦ f a b = g a b) :
    sumAdjacent f l = sumAdjacent g l := by
  induction l with
  | nil => rfl
  | cons a l ih =>
      cases l with
      | nil => rfl
      | cons b l =>
          rw [List.isChain_cons_cons] at h
          rw [sumAdjacent_cons_cons, sumAdjacent_cons_cons, h.1, ih h.2]

theorem sumAdjacent_add (f g : α → α → M) (l : List α) :
    sumAdjacent (fun a b ↦ f a b + g a b) l = sumAdjacent f l + sumAdjacent g l := by
  induction l with
  | nil => simp
  | cons a l ih =>
      cases l with
      | nil => simp
      | cons b l =>
          simp only [sumAdjacent_cons_cons, ih]
          rw [add_add_add_comm]

end Sum

section Order

variable [AddCommMonoid M] [PartialOrder M] [IsOrderedAddMonoid M] {f : α → α → M}

theorem sumAdjacent_nonneg (hf : ∀ a b, 0 ≤ f a b) (l : List α) : 0 ≤ sumAdjacent f l := by
  induction l with
  | nil => exact le_rfl
  | cons a l ih =>
      cases l with
      | nil => exact le_rfl
      | cons b l => exact add_nonneg (hf a b) ih

theorem sumAdjacent_eq_zero_iff (hf : ∀ a b, 0 ≤ f a b) (l : List α) :
    sumAdjacent f l = 0 ↔ l.IsChain fun a b ↦ f a b = 0 := by
  induction l with
  | nil => simp
  | cons a l ih =>
      cases l with
      | nil => simp
      | cons b l =>
          rw [sumAdjacent_cons_cons, List.isChain_cons_cons, ← ih]
          exact add_eq_zero_iff_of_nonneg (hf a b) (sumAdjacent_nonneg hf _)

end Order

/-! ## Elements that share a key -/

/-- No key comes back once another one has come. -/
def Contiguous (key : α → κ) (l : List α) : Prop :=
  ∀ a c b, [a, c, b].Sublist l → key a = key b → key c = key a

theorem Contiguous.of_append {key : α → κ} {l l' : List α} (h : Contiguous key (l ++ l')) :
    Contiguous key l :=
  fun x c y hsub ↦ h x c y (hsub.trans (List.sublist_append_left l l'))

theorem Contiguous.tail {key : α → κ} {a : α} {l : List α} (h : Contiguous key (a :: l)) :
    Contiguous key l :=
  fun x c y hsub ↦ h x c y (hsub.cons a)

/-- A first element shares its key with the next one, or with none. -/
theorem Contiguous.head {key : α → κ} {a b : α} {l : List α}
    (h : Contiguous key (a :: b :: l)) (hmem : key a ∈ (b :: l).map key) : key b = key a := by
  obtain ⟨c, hc, hkey⟩ := List.mem_map.mp hmem
  rcases List.mem_cons.mp hc with rfl | hc
  · exact hkey
  · apply h a b c _ hkey.symm
    exact ((List.singleton_sublist.mpr hc).cons_cons b).cons_cons a

variable [DecidableEq κ] [AddCommMonoid M]

/-- Within each key and then over the keys, or all at once. -/
theorem sum_sumAdjacent_filter {key : α → κ} {l : List α} (h : Contiguous key l)
    (f : α → α → M) :
    ∑ k ∈ (l.map key).toFinset, sumAdjacent f (l.filter fun a ↦ key a = k) =
      sumAdjacent (fun a b ↦ if key a = key b then f a b else 0) l := by
  induction l with
  | nil => simp
  | cons a l ih =>
      have htail := ih h.tail
      -- the keys other than the first element's see no change
      have hother : ∀ k ≠ key a, ((a :: l).filter fun x ↦ key x = k) =
          l.filter fun x ↦ key x = k := by
        intro k hk
        rw [List.filter_cons_of_neg]
        simpa using hk.symm
      by_cases hmem : key a ∈ l.map key
      · cases l with
        | nil => simp at hmem
        | cons b l =>
            have hkey := h.head hmem
            have hkeys : ((a :: b :: l).map key).toFinset = ((b :: l).map key).toFinset := by
              rw [List.map_cons, List.toFinset_cons, Finset.insert_eq_self]
              exact List.mem_toFinset.mpr hmem
            have hself : sumAdjacent f ((a :: b :: l).filter fun x ↦ key x = key a) =
                f a b + sumAdjacent f ((b :: l).filter fun x ↦ key x = key a) := by
              rw [List.filter_cons_of_pos (by simp), List.filter_cons_of_pos (by simpa using hkey),
                sumAdjacent_cons_cons]
            rw [hkeys, sumAdjacent_cons_cons, if_pos hkey.symm, ← htail,
              ← Finset.add_sum_erase _ _ (List.mem_toFinset.mpr hmem), hself,
              ← Finset.add_sum_erase (((b :: l).map key).toFinset)
                (fun k ↦ sumAdjacent f ((b :: l).filter fun x ↦ key x = k))
                (List.mem_toFinset.mpr hmem), add_assoc]
            congr 2
            apply Finset.sum_congr rfl
            intro k hk
            rw [hother k (Finset.ne_of_mem_erase hk)]
      · have hnone : (l.filter fun x ↦ key x = key a) = [] := by
          rw [List.filter_eq_nil_iff]
          intro x hx hkey
          exact hmem (List.mem_map.mpr ⟨x, hx, of_decide_eq_true hkey⟩)
        have hfirst : sumAdjacent (fun a b ↦ if key a = key b then f a b else 0) (a :: l) =
            sumAdjacent (fun a b ↦ if key a = key b then f a b else 0) l := by
          cases l with
          | nil => rfl
          | cons b l =>
              have hne : key a ≠ key b := by
                intro hkey
                apply hmem
                simp [hkey]
              rw [sumAdjacent_cons_cons, if_neg hne, zero_add]
        rw [List.map_cons, List.toFinset_cons,
          Finset.sum_insert (fun hin ↦ hmem (List.mem_toFinset.mp hin)),
          List.filter_cons_of_pos (by simp), hnone, sumAdjacent_singleton, zero_add, hfirst,
          ← htail]
        apply Finset.sum_congr rfl
        intro k hk
        have hk : k ≠ key a := ne_of_mem_of_not_mem (List.mem_toFinset.mp hk) hmem
        rw [hother k hk]

end RemoteInfra.Library

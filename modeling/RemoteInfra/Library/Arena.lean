import Mathlib.Data.Nat.Basic
import Mathlib.Logic.Function.Basic
import Mathlib.Order.Basic

/-!
# Arenas

Things that are made one after another, each under a number that no earlier one had.
-/

namespace RemoteInfra.Library

structure Arena (α : Type*) where
  get : ℕ → Option α
  next : ℕ
  unused : ∀ i, next ≤ i → get i = none

namespace Arena

variable {α : Type*} {A : Arena α} {a b : α} {i j : ℕ}

def empty : Arena α := ⟨fun _ ↦ none, 0, fun _ _ ↦ rfl⟩

theorem lt_next (h : A.get i = some a) : i < A.next := by
  by_contra hle
  rw [A.unused i (not_lt.mp hle)] at h
  cases h

/-- The new one has the number `A.next`. -/
def add (A : Arena α) (a : α) : Arena α where
  get := Function.update A.get A.next (some a)
  next := A.next + 1
  unused i hi := by
    rw [Function.update_of_ne (by omega)]
    exact A.unused i (by omega)

def remove (A : Arena α) (i : ℕ) : Arena α where
  get := Function.update A.get i none
  next := A.next
  unused j hj := by
    by_cases hji : j = i
    · rw [hji, Function.update_self]
    · rw [Function.update_of_ne hji]
      exact A.unused j hj

/-- What is not there is not made. -/
def modify (A : Arena α) (i : ℕ) (f : α → α) : Arena α where
  get := Function.update A.get i ((A.get i).map f)
  next := A.next
  unused j hj := by
    by_cases hji : j = i
    · rw [hji, Function.update_self, A.unused i (hji ▸ hj), Option.map_none]
    · rw [Function.update_of_ne hji]
      exact A.unused j hj

@[simp] theorem get_empty : (empty : Arena α).get i = none := rfl

@[simp] theorem next_add : (A.add a).next = A.next + 1 := rfl

@[simp] theorem next_remove : (A.remove i).next = A.next := rfl

@[simp] theorem next_modify (f : α → α) : (A.modify i f).next = A.next := rfl

theorem get_add_iff : (A.add a).get i = some b ↔ i = A.next ∧ a = b ∨ A.get i = some b := by
  by_cases hi : i = A.next
  · subst hi
    simp [add, A.unused A.next le_rfl]
  · simp [add, hi]

theorem get_add_of_lt (h : i < A.next) : (A.add a).get i = A.get i :=
  Function.update_of_ne h.ne _ _

theorem get_remove_iff : (A.remove i).get j = some b ↔ j ≠ i ∧ A.get j = some b := by
  by_cases hj : j = i
  · subst hj
    simp [remove]
  · simp [remove, hj]

@[simp] theorem get_modify_self (f : α → α) : (A.modify i f).get i = (A.get i).map f :=
  Function.update_self _ _ _

theorem get_modify_of_ne (f : α → α) (h : j ≠ i) : (A.modify i f).get j = A.get j :=
  Function.update_of_ne h _ _

theorem get_modify_iff (f : α → α) :
    (A.modify i f).get j = some b ↔
      j = i ∧ (∃ a, A.get i = some a ∧ f a = b) ∨ j ≠ i ∧ A.get j = some b := by
  by_cases hj : j = i
  · subst hj
    simp
  · simp [get_modify_of_ne f hj, hj]

end Arena

end RemoteInfra.Library

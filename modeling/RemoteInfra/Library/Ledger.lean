import Mathlib.Data.List.Nodup

/-!
# A ledger of what is delivered

Items are queued, taken in batches, and settled one by one, each of them delivered or lost.
The ledger numbers the items, so that two equal ones are told apart.
-/

namespace RemoteInfra.Library

structure Numbered (α : Type*) where
  number : ℕ
  item : α

structure Ledger (α : Type*) where
  /-- everything ever queued -/
  queued : List (Numbered α)
  waiting : List (Numbered α)
  /-- the batch taken last, as far as it is not settled -/
  held : List (Numbered α)
  delivered : List (Numbered α)

namespace Ledger

variable {α : Type*} {L : Ledger α}

def empty : Ledger α := ⟨[], [], [], []⟩

def numbered (n : ℕ) (items : List α) : List (Numbered α) :=
  (items.zipIdx n).map fun p ↦ ⟨p.2, p.1⟩

def enqueue (L : Ledger α) (items : List α) : Ledger α :=
  { L with
    queued := L.queued ++ numbered L.queued.length items
    waiting := L.waiting ++ numbered L.queued.length items }

def take (L : Ledger α) : Ledger α := { L with held := L.waiting, waiting := [] }

/-- The first item held is delivered or not; either way it is held no more. -/
def settle (L : Ledger α) (success : Bool) : Ledger α :=
  { L with
    held := L.held.tail
    delivered := if success then L.delivered ++ L.held.head?.toList else L.delivered }

def abandon (L : Ledger α) : Ledger α := { L with held := [] }

/-- Everything that is not lost, in the order in which it was queued. -/
def present (L : Ledger α) : List (Numbered α) := L.delivered ++ L.held ++ L.waiting

/-- Nothing is lost. -/
def Kept (L : Ledger α) : Prop := ∀ t ∈ L.queued, t ∈ L.present

/-- Numbers grow along what is present, and a queued item's number is below their count. -/
structure Ordered (L : Ledger α) : Prop where
  increasing : L.present.Pairwise fun a b ↦ a.number < b.number
  mem_queued : ∀ t ∈ L.present, t ∈ L.queued
  bounded : ∀ t ∈ L.queued, t.number < L.queued.length

/-! ## Numbering -/

@[simp] theorem numbered_nil (n : ℕ) : numbered n ([] : List α) = [] := rfl

@[simp] theorem length_numbered (n : ℕ) (items : List α) :
    (numbered n items).length = items.length := by
  simp [numbered]

@[simp] theorem map_item_numbered (n : ℕ) (items : List α) :
    (numbered n items).map Numbered.item = items := by
  induction items generalizing n with
  | nil => rfl
  | cons item items ih =>
      have htail := ih (n + 1)
      simp only [numbered, List.zipIdx_cons, List.map_cons] at htail ⊢
      rw [htail]

theorem number_mem_numbered {n : ℕ} {items : List α} {t : Numbered α}
    (h : t ∈ numbered n items) : n ≤ t.number ∧ t.number < n + items.length := by
  obtain ⟨p, hp, rfl⟩ := List.mem_map.mp h
  have hbounds := List.mem_zipIdx hp
  exact ⟨hbounds.1, hbounds.2.1⟩

theorem pairwise_numbered (n : ℕ) (items : List α) :
    (numbered n items).Pairwise fun a b ↦ a.number < b.number := by
  induction items generalizing n with
  | nil => exact List.Pairwise.nil
  | cons item items ih =>
      apply List.pairwise_cons.mpr
      refine ⟨fun t ht ↦ ?_, ih (n + 1)⟩
      have ht : t ∈ numbered (n + 1) items := ht
      have hbounds := number_mem_numbered ht
      simp only
      omega

/-! ## What each operation keeps -/

theorem ordered_empty : (empty : Ledger α).Ordered :=
  ⟨List.Pairwise.nil, by simp [present, empty], by simp [empty]⟩

/-- Numbers tell apart what is present. -/
theorem Ordered.nodup (h : L.Ordered) : L.present.Nodup := by
  apply h.increasing.imp
  intro a b hlt hab
  rw [hab] at hlt
  exact Nat.lt_irrefl _ hlt

/-- No item is delivered twice. -/
theorem Ordered.nodup_delivered (h : L.Ordered) : L.delivered.Nodup := by
  have hnodup := h.nodup
  rw [present, List.append_assoc] at hnodup
  exact (List.nodup_append.mp hnodup).1

theorem present_enqueue (L : Ledger α) (items : List α) :
    (L.enqueue items).present = L.present ++ numbered L.queued.length items := by
  simp [present, enqueue]

theorem Ordered.enqueue (h : L.Ordered) (items : List α) : (L.enqueue items).Ordered := by
  constructor
  · rw [present_enqueue, List.pairwise_append]
    refine ⟨h.increasing, pairwise_numbered _ _, fun a ha b hb ↦ ?_⟩
    have ha := h.bounded a (h.mem_queued a ha)
    have hb := number_mem_numbered hb
    omega
  · intro t ht
    rw [present_enqueue] at ht
    rcases List.mem_append.mp ht with hold | hnew
    · exact List.mem_append_left _ (h.mem_queued t hold)
    · exact List.mem_append_right _ hnew
  · intro t ht
    simp only [Ledger.enqueue, List.length_append, length_numbered]
    rcases List.mem_append.mp ht with hold | hnew
    · have hbound := h.bounded t hold
      omega
    · exact (number_mem_numbered hnew).2

/-- A new item is present, and the old ones are what they were. -/
theorem kept_enqueue_iff (h : L.Ordered) (items : List α) :
    (L.enqueue items).Kept ↔ L.Kept := by
  constructor
  · intro hkept t ht
    have hpresent := hkept t (List.mem_append_left _ ht)
    rw [present_enqueue] at hpresent
    rcases List.mem_append.mp hpresent with hold | hnew
    · exact hold
    · have hbound := h.bounded t ht
      have hnumber := (number_mem_numbered hnew).1
      omega
  · intro hkept t ht
    rw [present_enqueue]
    rcases List.mem_append.mp ht with hold | hnew
    · exact List.mem_append_left _ (hkept t hold)
    · exact List.mem_append_right _ hnew

/-- A batch is taken when none is held. -/
theorem present_take (h : L.held = []) : L.take.present = L.present := by
  simp [present, take, h]

theorem Ordered.take (h : L.Ordered) (hheld : L.held = []) : L.take.Ordered := by
  constructor
  · rw [present_take hheld]
    exact h.increasing
  · rw [present_take hheld]
    exact h.mem_queued
  · exact h.bounded

theorem kept_take_iff (h : L.held = []) : L.take.Kept ↔ L.Kept := by
  simp only [Kept, present_take h]
  rfl

theorem present_settle_sublist (L : Ledger α) (success : Bool) :
    (L.settle success).present.Sublist L.present := by
  apply List.Sublist.append_right
  cases hheld : L.held with
  | nil => cases success <;> simp [settle, hheld]
  | cons t rest =>
      cases success
      · simp only [settle, hheld, List.tail_cons, if_false, Bool.false_eq_true]
        exact (List.sublist_cons_self t rest).append_left _
      · simp [settle, hheld]

theorem Ordered.settle (h : L.Ordered) (success : Bool) : (L.settle success).Ordered where
  increasing := h.increasing.sublist (present_settle_sublist L success)
  mem_queued t ht := h.mem_queued t ((present_settle_sublist L success).subset ht)
  bounded := h.bounded

/-- Settling loses the item unless it is delivered. -/
theorem kept_settle_iff (h : L.Ordered) {success : Bool} (hheld : L.held ≠ []) :
    (L.settle success).Kept ↔ L.Kept ∧ success = true := by
  obtain ⟨t, rest, hheld⟩ := List.exists_cons_of_ne_nil hheld
  cases success
  · constructor
    · intro hkept
      have hmem : t ∈ L.present := by simp [present, hheld]
      have hpresent := hkept t (h.mem_queued t hmem)
      have hnodup := h.nodup
      simp only [present, hheld, List.append_assoc, List.cons_append] at hnodup
      have hout : t ∉ L.delivered ++ (rest ++ L.waiting) :=
        (List.nodup_cons.mp (List.nodup_middle.mp hnodup)).1
      simp only [present, Ledger.settle, hheld, List.tail_cons, if_false, Bool.false_eq_true,
        List.append_assoc] at hpresent
      exact absurd hpresent hout
    · intro hkept
      cases hkept.2
  · have hsame : (L.settle true).present = L.present := by
      simp [present, Ledger.settle, hheld]
    simp only [Kept, hsame, and_true]
    rfl

theorem present_abandon_sublist (L : Ledger α) : L.abandon.present.Sublist L.present := by
  apply List.Sublist.append_right
  simp [abandon]

theorem Ordered.abandon (h : L.Ordered) : L.abandon.Ordered where
  increasing := h.increasing.sublist (present_abandon_sublist L)
  mem_queued t ht := h.mem_queued t ((present_abandon_sublist L).subset ht)
  bounded := h.bounded

/-- Abandoning a batch loses what is held. -/
theorem kept_abandon_iff (h : L.Ordered) : L.abandon.Kept ↔ L.Kept ∧ L.held = [] := by
  constructor
  · intro hkept
    refine ⟨fun t ht ↦ (present_abandon_sublist L).subset (hkept t ht), ?_⟩
    rw [List.eq_nil_iff_forall_not_mem]
    intro t ht
    have hpresent := hkept t (h.mem_queued t (by simp [present, ht]))
    have hnodup := h.nodup
    simp only [present, List.append_assoc] at hnodup
    obtain ⟨-, hright, hdelivered⟩ := List.nodup_append.mp hnodup
    rcases List.mem_append.mp hpresent with hdone | hwaiting
    · rcases List.mem_append.mp hdone with hdone | hnone
      · exact hdelivered t hdone t (List.mem_append_left _ ht) rfl
      · cases hnone
    · exact (List.nodup_append.mp hright).2.2 t ht t hwaiting rfl
  · intro ⟨hkept, hheld⟩ t ht
    have hpresent := hkept t ht
    simpa [present, Ledger.abandon, hheld] using hpresent

end Ledger

end RemoteInfra.Library

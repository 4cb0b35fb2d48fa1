import Mathlib.Logic.Function.Basic
import Mathlib.Order.Defs.LinearOrder
import Mathlib.Algebra.Order.Ring.Int

/-!
# Key-value stores whose entries expire

Every entry carries the last instant at which it is still there.  An entry past its
deadline is absent for every reader, whether or not the store has dropped it.
-/

namespace RemoteInfra.Library

structure Entry (V : Type) where
  value : V
  deadline : ℤ

/-- A store that holds, under each key, at most one entry of the key's own type. -/
def Store (K : Type) (V : K → Type) : Type := (k : K) → Option (Entry (V k))

namespace Store

variable {K : Type} {V : K → Type}

def empty : Store K V := fun _ ↦ none

/-- The entry a reader finds at time `now`. -/
def live (s : Store K V) (now : ℤ) (k : K) : Option (Entry (V k)) :=
  (s k).filter fun e ↦ decide (now ≤ e.deadline)

def get (s : Store K V) (now : ℤ) (k : K) : Option (V k) :=
  (s.live now k).map Entry.value

def set [DecidableEq K] (s : Store K V) (k : K) (v : V k) (deadline : ℤ) : Store K V :=
  Function.update s k (some ⟨v, deadline⟩)

def del [DecidableEq K] (s : Store K V) (k : K) : Store K V :=
  Function.update s k none

theorem live_eq_some_iff {s : Store K V} {now : ℤ} {k : K} {e : Entry (V k)} :
    s.live now k = some e ↔ s k = some e ∧ now ≤ e.deadline := by
  simp [live, Option.filter_eq_some_iff]

theorem live_eq_none_iff {s : Store K V} {now : ℤ} {k : K} :
    s.live now k = none ↔ ∀ e, s k = some e → e.deadline < now := by
  simp [live, Option.filter_eq_none_iff]

theorem get_eq_some_iff {s : Store K V} {now : ℤ} {k : K} {v : V k} :
    s.get now k = some v ↔ ∃ e, s.live now k = some e ∧ e.value = v := by
  simp [get]

@[simp] theorem get_eq_none_iff {s : Store K V} {now : ℤ} {k : K} :
    s.get now k = none ↔ s.live now k = none := by
  simp [get]

@[simp] theorem live_empty (now : ℤ) (k : K) : (empty : Store K V).live now k = none := rfl

/-- Time passing either keeps an entry or takes it past its deadline. -/
theorem live_later {s : Store K V} {now later : ℤ} {k : K} {e : Entry (V k)}
    (h : s.live now k = some e) :
    s.live later k = some e ∨ (s.live later k = none ∧ e.deadline < later) := by
  obtain ⟨hk, _⟩ := live_eq_some_iff.mp h
  by_cases hd : later ≤ e.deadline
  · exact .inl (live_eq_some_iff.mpr ⟨hk, hd⟩)
  · refine .inr ⟨live_eq_none_iff.mpr ?_, not_le.mp hd⟩
    intro e' he'
    obtain rfl : e = e' := Option.some.inj (hk.symm.trans he')
    exact not_le.mp hd

/-- What is there later was there before. -/
theorem live_earlier {s : Store K V} {now later : ℤ} {k : K} {e : Entry (V k)}
    (hle : now ≤ later) (h : s.live later k = some e) : s.live now k = some e := by
  obtain ⟨hk, hd⟩ := live_eq_some_iff.mp h
  exact live_eq_some_iff.mpr ⟨hk, hle.trans hd⟩

section Updates

variable [DecidableEq K]

@[simp] theorem set_apply_self (s : Store K V) (k : K) (v : V k) (d : ℤ) :
    s.set k v d k = some ⟨v, d⟩ :=
  Function.update_self k _ s

theorem set_apply_of_ne (s : Store K V) {k j : K} (h : j ≠ k) (v : V k) (d : ℤ) :
    s.set k v d j = s j :=
  Function.update_of_ne h _ s

@[simp] theorem del_apply_self (s : Store K V) (k : K) : s.del k k = none :=
  Function.update_self k _ s

theorem del_apply_of_ne (s : Store K V) {k j : K} (h : j ≠ k) : s.del k j = s j :=
  Function.update_of_ne h _ s

theorem apply_of_set {s : Store K V} {k j : K} {v : V k} {d : ℤ} {e : Entry (V j)}
    (hset : s.set k v d j = some e) (h : j ≠ k) : s j = some e :=
  (set_apply_of_ne s h v d).symm.trans hset

theorem apply_of_del {s : Store K V} {k j : K} {e : Entry (V j)} (hdel : s.del k j = some e) :
    s j = some e := by
  by_cases h : j = k
  · subst h
    rw [del_apply_self] at hdel
    cases hdel
  · exact (del_apply_of_ne s h).symm.trans hdel

@[simp] theorem live_set_self (s : Store K V) (now : ℤ) (k : K) (v : V k) (d : ℤ)
    (h : now ≤ d) : (s.set k v d).live now k = some ⟨v, d⟩ :=
  live_eq_some_iff.mpr ⟨set_apply_self s k v d, h⟩

@[simp] theorem live_set_of_ne (s : Store K V) (now : ℤ) {k j : K} (h : j ≠ k) (v : V k)
    (d : ℤ) : (s.set k v d).live now j = s.live now j := by
  simp only [live, set_apply_of_ne s h]

@[simp] theorem live_del_self (s : Store K V) (now : ℤ) (k : K) :
    (s.del k).live now k = none := by
  simp only [live, del_apply_self, Option.filter_none]

@[simp] theorem live_del_of_ne (s : Store K V) (now : ℤ) {k j : K} (h : j ≠ k) :
    (s.del k).live now j = s.live now j := by
  simp only [live, del_apply_of_ne s h]

@[simp] theorem get_set_self (s : Store K V) (now : ℤ) (k : K) (v : V k) (d : ℤ)
    (h : now ≤ d) : (s.set k v d).get now k = some v := by
  simp [get, h]

@[simp] theorem get_set_of_ne (s : Store K V) (now : ℤ) {k j : K} (h : j ≠ k) (v : V k)
    (d : ℤ) : (s.set k v d).get now j = s.get now j := by
  simp [get, h]

end Updates

end Store

end RemoteInfra.Library

import Mathlib.Data.List.Basic
import Mathlib.Algebra.BigOperators.Group.List.Basic
import Mathlib.Algebra.Ring.Nat

/-!
# Fields joined by a separator

A joined text falls apart into its fields again wherever two texts agree on how many
separators each field holds itself.
-/

namespace RemoteInfra.Library

variable {α : Type}

def joinWith (sep : List α) : List (List α) → List α
  | [] => []
  | [field] => field
  | field :: next :: fields => field ++ (sep ++ joinWith sep (next :: fields))

theorem joinWith_cons (sep : List α) (field : List α) {fields : List (List α)}
    (h : fields ≠ []) : joinWith sep (field :: fields) = field ++ (sep ++ joinWith sep fields) := by
  cases fields with
  | nil => exact absurd rfl h
  | cons => rfl

variable [DecidableEq α]

/-- Equally many separators in front of a separator leave only one way to cut there. -/
theorem append_sep_inj {sep : α} {a b c d : List α} (hcount : a.count sep = b.count sep)
    (h : a ++ sep :: c = b ++ sep :: d) : a = b ∧ c = d := by
  induction a generalizing b with
  | nil =>
      cases b with
      | nil => exact ⟨rfl, (List.cons.inj h).2⟩
      | cons y b =>
          obtain ⟨rfl, -⟩ := List.cons.inj h
          simp at hcount
  | cons x a ih =>
      cases b with
      | nil =>
          obtain ⟨rfl, -⟩ := List.cons.inj h
          simp at hcount
      | cons y b =>
          obtain ⟨rfl, htail⟩ := List.cons.inj h
          have hcount' : a.count sep = b.count sep := by
            simp only [List.count_cons] at hcount
            omega
          obtain ⟨rfl, hrest⟩ := ih hcount' htail
          exact ⟨rfl, hrest⟩

theorem count_joinWith (sep : α) {fields : List (List α)} (h : fields ≠ []) :
    (joinWith [sep] fields).count sep + 1 =
      (fields.map (List.count sep)).sum + fields.length := by
  induction fields with
  | nil => exact absurd rfl h
  | cons field fields ih =>
      cases fields with
      | nil => simp [joinWith]
      | cons next fields =>
          have htail := ih (List.cons_ne_nil _ _)
          simp only [joinWith, List.count_append, List.map_cons, List.sum_cons, List.length_cons,
            List.count_singleton_self] at htail ⊢
          omega

/-- Fields with equally many separators in the same places are equal when their joined
texts are. -/
theorem joinWith_inj {sep : α} {fs gs : List (List α)}
    (hcount : fs.map (List.count sep) = gs.map (List.count sep))
    (h : joinWith [sep] fs = joinWith [sep] gs) : fs = gs := by
  induction fs generalizing gs with
  | nil => exact (List.map_eq_nil_iff.mp hcount.symm).symm
  | cons f fs ih =>
      cases gs with
      | nil => simp at hcount
      | cons g gs =>
          obtain ⟨hhead, htail⟩ := List.cons.inj hcount
          rcases eq_or_ne fs [] with rfl | hfs
          · obtain rfl := List.map_eq_nil_iff.mp htail.symm
            simpa [joinWith] using h
          · have hgs : gs ≠ [] := by
              rintro rfl
              exact hfs (List.map_eq_nil_iff.mp htail)
            rw [joinWith_cons _ _ hfs, joinWith_cons _ _ hgs] at h
            obtain ⟨rfl, hrest⟩ := append_sep_inj hhead h
            rw [ih htail hrest]

/-- Two joined texts fall apart into their fields when the first few agree on separators and
the others hold none. -/
theorem joinWith_append_inj {sep : α} {header header' tail tail' : List (List α)}
    (hheader : header.map (List.count sep) = header'.map (List.count sep))
    (htail : ∀ field ∈ tail, sep ∉ field) (htail' : ∀ field ∈ tail', sep ∉ field)
    (hne : header ≠ [])
    (h : joinWith [sep] (header ++ tail) = joinWith [sep] (header' ++ tail')) :
    header = header' ∧ tail = tail' := by
  have hzero : ∀ fields : List (List α), (∀ field ∈ fields, sep ∉ field) →
      fields.map (List.count sep) = List.replicate fields.length 0 := by
    intro fields hfields
    refine List.eq_replicate_iff.mpr ⟨List.length_map _, fun n hn ↦ ?_⟩
    obtain ⟨field, hfield, rfl⟩ := List.mem_map.mp hn
    exact List.count_eq_zero.mpr (hfields field hfield)
  have hlength : header.length = header'.length := by
    simpa using congrArg List.length hheader
  have hne' : header' ≠ [] := by
    rintro rfl
    exact hne (List.length_eq_zero_iff.mp hlength)
  have hcount := count_joinWith sep (List.append_ne_nil_of_left_ne_nil hne tail)
  have hcount' := count_joinWith sep (List.append_ne_nil_of_left_ne_nil hne' tail')
  have hsum : ∀ k, (List.replicate k 0).sum = 0 := fun k ↦
    List.sum_eq_zero fun _ ↦ List.eq_of_mem_replicate
  simp only [List.map_append, List.sum_append, hzero _ htail, hzero _ htail', hsum,
    List.length_append] at hcount hcount'
  rw [h, hheader] at hcount
  have hlen : tail.length = tail'.length := by omega
  have hfields := joinWith_inj (by
    simp only [List.map_append, hzero _ htail, hzero _ htail', hheader, hlen]) h
  exact List.append_inj hfields hlength

end RemoteInfra.Library

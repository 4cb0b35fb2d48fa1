import Mathlib.Data.List.Basic

/-!
# Events without influence

A machine takes events one at a time and shows something of each.  Deleting events changes
nothing that is shown of the others when some relation between the states of the two runs
survives every event: one that is deleted is taken by the first run alone, any other by both.
-/

namespace RemoteInfra.Library

structure Machine (State Event Shown : Type) where
  next : State → Event → State
  shown : State → Event → Shown

namespace Machine

variable {State Event Shown : Type} (M : Machine State Event Shown)

def after (s : State) (es : List Event) : State := es.foldl M.next s

def outputs : State → List Event → List Shown
  | _, [] => []
  | s, e :: es => M.shown s e :: outputs (M.next s e) es

/-- The events that `drop` does not delete, each with what the whole run shows of it. -/
def kept (drop : State → Event → Bool) : State → List Event → List (Event × Shown)
  | _, [] => []
  | s, e :: es =>
      if drop s e then kept drop (M.next s e) es
      else (e, M.shown s e) :: kept drop (M.next s e) es

/-- The run without the deleted events shows of every other what the whole run shows. -/
def Inert (drop : State → Event → Bool) (s : State) (es : List Event) : Prop :=
  M.outputs s ((M.kept drop s es).map Prod.fst) = (M.kept drop s es).map Prod.snd

instance [DecidableEq Shown] (drop : State → Event → Bool) (s : State) (es : List Event) :
    Decidable (M.Inert drop s es) :=
  inferInstanceAs (Decidable (_ = _))

/-- `P` holds of every event of the run and the state it meets. -/
def Throughout (P : State → Event → Prop) : State → List Event → Prop
  | _, [] => True
  | s, e :: es => P s e ∧ Throughout P (M.next s e) es

/-- `R` relates the states of the whole run to those of the run without deleted events. -/
structure Unwinding (drop : State → Event → Bool) (P : State → Event → Prop)
    (R : State → State → Prop) : Prop where
  dropped : ∀ {s s' e}, R s s' → P s e → drop s e = true → R (M.next s e) s'
  kept : ∀ {s s' e}, R s s' → P s e → drop s e = false →
    M.shown s' e = M.shown s e ∧ R (M.next s e) (M.next s' e)

variable {M} {drop : State → Event → Bool} {P : State → Event → Prop}
  {R : State → State → Prop}

theorem Unwinding.outputs_eq (h : M.Unwinding drop P R) {s s' : State} {es : List Event}
    (hrel : R s s') (hall : M.Throughout P s es) :
    M.outputs s' ((M.kept drop s es).map Prod.fst) = (M.kept drop s es).map Prod.snd := by
  induction es generalizing s s' with
  | nil => rfl
  | cons e es ih =>
      obtain ⟨hhead, htail⟩ := hall
      simp only [Machine.kept]
      by_cases hdrop : drop s e = true
      · rw [if_pos hdrop]
        exact ih (h.dropped hrel hhead hdrop) htail
      · rw [if_neg hdrop]
        obtain ⟨hshown, hnext⟩ := h.kept hrel hhead ((Bool.not_eq_true _).mp hdrop)
        simp only [List.map_cons, outputs, hshown]
        rw [ih hnext htail]

theorem Unwinding.inert (h : M.Unwinding drop P R) {s : State} {es : List Event}
    (hrefl : R s s) (hall : M.Throughout P s es) : M.Inert drop s es :=
  h.outputs_eq hrefl hall

/-- What one step preserves holds after every run. -/
theorem after_invariant {Q : State → Prop} (hstep : ∀ s e, Q s → Q (M.next s e)) {s : State}
    (hs : Q s) (es : List Event) : Q (M.after s es) := by
  induction es generalizing s with
  | nil => exact hs
  | cons e es ih => exact ih (hstep s e hs)

end Machine

end RemoteInfra.Library

import Mathlib.Algebra.Order.Ring.Int
import Mathlib.Logic.Function.Basic
import RemoteInfra.Library.TransitionSystem

/-!
# Locks that expire

A table of locks with one clock.  A free lock is acquired for a lifetime, its holder renews or
releases it, and when the clock passes the deadline the lock is free again.
-/

namespace RemoteInfra.Library

variable {Resource Holder : Type}

/-- Who holds what until when; nobody holds anything beyond its deadline. -/
@[ext]
structure Locks (Resource Holder : Type) where
  clock : ℤ
  held : Resource → Option (Holder × ℤ)
  live : ∀ k h deadline, held k = some (h, deadline) → clock ≤ deadline

inductive LockLabel (Resource Holder : Type)
  | acquire (k : Resource) (h : Holder)
  | renew (k : Resource) (h : Holder)
  | release (k : Resource) (h : Holder)
  | tick (t : ℤ)

namespace Locks

def HeldBy (s : Locks Resource Holder) (k : Resource) (h : Holder) : Prop :=
  ∃ deadline, s.held k = some (h, deadline)

/-- What is held is held by one alone. -/
theorem HeldBy.unique {s : Locks Resource Holder} {k : Resource} {h h' : Holder}
    (hheld : s.HeldBy k h) (hheld' : s.HeldBy k h') : h = h' := by
  obtain ⟨deadline, heq⟩ := hheld
  obtain ⟨deadline', heq'⟩ := hheld'
  exact (Prod.mk.inj (Option.some.inj (heq.symm.trans heq'))).1

inductive Step [DecidableEq Resource] (lifetime : ℤ) :
    Locks Resource Holder → LockLabel Resource Holder → Locks Resource Holder → Prop
  | acquire {s s' : Locks Resource Holder} {k : Resource} {h : Holder} :
      s.held k = none → s'.clock = s.clock →
        s'.held = Function.update s.held k (some (h, s.clock + lifetime)) →
          Step lifetime s (.acquire k h) s'
  | renew {s s' : Locks Resource Holder} {k : Resource} {h : Holder} :
      s.HeldBy k h → s'.clock = s.clock →
        s'.held = Function.update s.held k (some (h, s.clock + lifetime)) →
          Step lifetime s (.renew k h) s'
  | release {s s' : Locks Resource Holder} {k : Resource} {h : Holder} :
      s.HeldBy k h → s'.clock = s.clock → s'.held = Function.update s.held k none →
        Step lifetime s (.release k h) s'
  | tick {s s' : Locks Resource Holder} {t : ℤ} :
      s.clock ≤ t → s'.clock = t →
        (∀ k, s'.held k = (s.held k).filter fun p ↦ decide (t ≤ p.2)) →
          Step lifetime s (.tick t) s'

end Locks

/-- All locks are free at first. -/
def lockSystem [DecidableEq Resource] (lifetime : ℤ) :
    TransitionSystem (Locks Resource Holder) (LockLabel Resource Holder) where
  Init s := ∀ k, s.held k = none
  Step := Locks.Step lifetime

/-- Asked of every step: whoever acquires a lock has never acquired one before. -/
def FreshHolders : TransitionSystem.StepCondition (Locks Resource Holder)
    (LockLabel Resource Holder)
  | ms, _, .acquire _ h => ∀ k, .acquire k h ∉ ms
  | _, _, _ => True

/-- Asked of every step: while `h` holds `k`, the clock does not pass its deadline. -/
def KeptAlive (k : Resource) (h : Holder) : TransitionSystem.StepCondition
    (Locks Resource Holder) (LockLabel Resource Holder)
  | _, s, .tick t => ∀ deadline, s.held k = some (h, deadline) → t ≤ deadline
  | _, _, _ => True

section Runs

variable [DecidableEq Resource] {lifetime : ℤ} {s s' : Locks Resource Holder}
  {m : LockLabel Resource Holder} {k : Resource} {h : Holder}

/-- A step takes a lock from its holder only by a release of that holder or past the deadline. -/
theorem Locks.HeldBy.step (hheld : s.HeldBy k h) (hstep : Locks.Step lifetime s m s') :
    s'.HeldBy k h ∨ m = .release k h ∨
      ∃ t deadline, m = .tick t ∧ s.held k = some (h, deadline) ∧ deadline < t := by
  obtain ⟨deadline, hdeadline⟩ := hheld
  cases hstep with
  | @acquire _ k' h' hfree _ hnext =>
      have hne : k ≠ k' := by
        rintro rfl
        cases hfree.symm.trans hdeadline
      exact .inl ⟨deadline, by rw [hnext, Function.update_of_ne hne, hdeadline]⟩
  | @renew _ k' h' hholds _ hnext =>
      left
      by_cases hk : k = k'
      · subst hk
        obtain rfl := HeldBy.unique ⟨deadline, hdeadline⟩ hholds
        exact ⟨s.clock + lifetime, by rw [hnext, Function.update_self]⟩
      · exact ⟨deadline, by rw [hnext, Function.update_of_ne hk, hdeadline]⟩
  | @release _ k' h' hholds _ hnext =>
      by_cases hk : k = k'
      · subst hk
        obtain rfl := HeldBy.unique ⟨deadline, hdeadline⟩ hholds
        exact .inr (.inl rfl)
      · exact .inl ⟨deadline, by rw [hnext, Function.update_of_ne hk, hdeadline]⟩
  | @tick _ t _ _ hnext =>
      by_cases ht : t ≤ deadline
      · left
        refine ⟨deadline, ?_⟩
        rw [hnext, hdeadline, Option.filter_some, if_pos (decide_eq_true ht)]
      · exact .inr (.inr ⟨t, deadline, rfl, hdeadline, not_le.mp ht⟩)

/-- A lock that is kept alive stays with its holder until that releases it. -/
theorem heldBy_of_keptAlive {ms before after : List (LockLabel Resource Holder)}
    (hrun : (lockSystem lifetime).RunWhere (KeptAlive k h) ms s)
    (hms : ms = before ++ .acquire k h :: after) (hunreleased : .release k h ∉ after) :
    s.HeldBy k h := by
  induction hrun generalizing after with
  | init => simp at hms
  | @step ms s s' m hrun hcond hstep ih =>
      rcases List.eq_nil_or_concat after with rfl | ⟨after, last, rfl⟩
      · obtain ⟨-, hm⟩ := List.append_inj' hms rfl
        obtain rfl := List.singleton_inj.mp hm
        cases hstep with
        | acquire _ _ hnext => exact ⟨s.clock + lifetime, by rw [hnext, Function.update_self]⟩
      · have hsplit : ms ++ [m] = (before ++ .acquire k h :: after) ++ [last] := by simpa using hms
        obtain ⟨hbefore, hm⟩ := List.append_inj' hsplit rfl
        obtain rfl := List.singleton_inj.mp hm
        have hheld := ih hbefore fun hmem ↦ hunreleased (by simp [hmem])
        rcases hheld.step hstep with hkept | rfl | ⟨t, deadline, rfl, hdeadline, hpast⟩
        · exact hkept
        · exact absurd (by simp) hunreleased
        · have := hcond deadline hdeadline
          omega

/-- Nobody acquires a lock that is kept alive. -/
theorem not_acquired_of_keptAlive {before after : List (LockLabel Resource Holder)}
    (hrun : (lockSystem lifetime).RunWhere (KeptAlive k h) (before ++ .acquire k h :: after) s)
    (hunreleased : .release k h ∉ after) (h' : Holder) : .acquire k h' ∉ after := by
  intro hmem
  obtain ⟨middle, rest, rfl⟩ := List.append_of_mem hmem
  have hsplit : before ++ .acquire k h :: (middle ++ .acquire k h' :: rest) =
      (before ++ .acquire k h :: middle) ++ .acquire k h' :: rest := by simp
  rw [hsplit] at hrun
  obtain ⟨t, t', hbefore, -, hstep⟩ := hrun.split
  obtain ⟨deadline, hheld⟩ := heldBy_of_keptAlive hbefore rfl fun hreleased ↦
    hunreleased (List.mem_append_left _ hreleased)
  cases hstep with
  | acquire hfree => cases hfree.symm.trans hheld

/-- Nothing is held for longer than a lifetime from now on. -/
theorem deadline_le_of_run
    {D : TransitionSystem.StepCondition (Locks Resource Holder) (LockLabel Resource Holder)}
    {ms : List (LockLabel Resource Holder)} (hrun : (lockSystem lifetime).RunWhere D ms s) :
    ∀ k h deadline, s.held k = some (h, deadline) → deadline ≤ s.clock + lifetime := by
  induction hrun with
  | init hfree =>
      intro k h deadline hheld
      cases (hfree k).symm.trans hheld
  | step _ _ hstep ih =>
      intro k h deadline hheld
      cases hstep with
      | acquire _ hclock hnext | renew _ hclock hnext =>
          rw [hnext, Function.update_apply] at hheld
          split_ifs at hheld with hk
          · cases hheld
            rw [hclock]
          · rw [hclock]
            exact ih k h deadline hheld
      | release _ hclock hnext =>
          rw [hnext, Function.update_apply] at hheld
          split_ifs at hheld with hk
          rw [hclock]
          exact ih k h deadline hheld
      | tick hle hclock hnext =>
          rw [hnext] at hheld
          have hbefore := ih k h deadline (Option.filter_eq_some_iff.mp hheld).1
          omega

/-- Whoever holds a lock after a step held it before, or has just acquired it. -/
theorem Locks.Step.heldBy_before (hstep : Locks.Step lifetime s m s') (hheld : s'.HeldBy k h) :
    s.HeldBy k h ∨ m = .acquire k h := by
  obtain ⟨deadline, hdeadline⟩ := hheld
  cases hstep with
  | @acquire _ k' h' _ _ hnext =>
      rw [hnext, Function.update_apply] at hdeadline
      split_ifs at hdeadline with hk
      · cases hdeadline
        subst hk
        exact .inr rfl
      · exact .inl ⟨deadline, hdeadline⟩
  | @renew _ k' h' hholds _ hnext =>
      left
      rw [hnext, Function.update_apply] at hdeadline
      split_ifs at hdeadline with hk
      · cases hdeadline
        subst hk
        exact hholds
      · exact ⟨deadline, hdeadline⟩
  | release _ _ hnext =>
      left
      rw [hnext, Function.update_apply] at hdeadline
      split_ifs at hdeadline with hk
      exact ⟨deadline, hdeadline⟩
  | tick _ _ hnext =>
      rw [hnext] at hdeadline
      exact .inl ⟨deadline, (Option.filter_eq_some_iff.mp hdeadline).1⟩

/-- What is not held is held again only when acquired again. -/
theorem not_heldBy_of_unacquired {t : Locks Resource Holder} {ms : List (LockLabel Resource Holder)}
    (hrun : ((lockSystem lifetime).startingAt s).Run ms t) (hlost : ¬ s.HeldBy k h)
    (hunacquired : .acquire k h ∉ ms) : ¬ t.HeldBy k h := by
  induction hrun with
  | init hinit =>
      obtain rfl := hinit
      exact hlost
  | step _ _ hstep ih =>
      intro hheld
      rcases hstep.heldBy_before hheld with hbefore | rfl
      · exact ih (fun hmem ↦ hunacquired (List.mem_append_left _ hmem)) hbefore
      · exact hunacquired (by simp)

/-- What is held at the end and was neither acquired nor renewed since was held like that. -/
theorem held_of_unrenewed {t : Locks Resource Holder} {ms : List (LockLabel Resource Holder)}
    (hrun : ((lockSystem lifetime).startingAt s).Run ms t) (hunrenewed : .renew k h ∉ ms)
    (hunacquired : .acquire k h ∉ ms) {deadline : ℤ} (hheld : t.held k = some (h, deadline)) :
    s.held k = some (h, deadline) := by
  induction hrun with
  | init hinit =>
      obtain rfl := hinit
      exact hheld
  | @step ms t t' m _ _ hstep ih =>
      refine ih (fun hmem ↦ hunrenewed (List.mem_append_left _ hmem))
        (fun hmem ↦ hunacquired (List.mem_append_left _ hmem)) ?_
      cases hstep with
      | acquire _ _ hnext =>
          rw [hnext, Function.update_apply] at hheld
          split_ifs at hheld with hk
          · cases hheld
            subst hk
            exact absurd (by simp) hunacquired
          · exact hheld
      | renew _ _ hnext =>
          rw [hnext, Function.update_apply] at hheld
          split_ifs at hheld with hk
          · cases hheld
            subst hk
            exact absurd (by simp) hunrenewed
          · exact hheld
      | release _ _ hnext =>
          rw [hnext, Function.update_apply] at hheld
          split_ifs at hheld with hk
          exact hheld
      | tick _ _ hnext =>
          rw [hnext] at hheld
          exact (Option.filter_eq_some_iff.mp hheld).1

/-- A lock that goes unrenewed for longer than a lifetime is lost until it is acquired again. -/
theorem lost_of_unrenewed {t u : Locks Resource Holder}
    {before idle after : List (LockLabel Resource Holder)}
    (hbefore : (lockSystem lifetime).Run before s)
    (hidle : ((lockSystem lifetime).startingAt s).Run idle t)
    (hafter : ((lockSystem lifetime).startingAt t).Run after u) (hunrenewed : .renew k h ∉ idle)
    (hlate : s.clock + lifetime < t.clock) (hunacquired : .acquire k h ∉ idle ++ after) :
    ¬ u.HeldBy k h ∧ .renew k h ∉ after := by
  obtain ⟨hidle', hafter'⟩ := not_or.mp fun hmem ↦ hunacquired (List.mem_append.mpr hmem)
  have hlost : ¬ t.HeldBy k h := by
    rintro ⟨deadline, hheld⟩
    have hheld' := held_of_unrenewed hidle hunrenewed hidle' hheld
    have := deadline_le_of_run hbefore k h deadline hheld'
    have := t.live k h deadline hheld
    omega
  refine ⟨not_heldBy_of_unacquired hafter hlost hafter', fun hmem ↦ ?_⟩
  obtain ⟨early, _, _, hearly, hrun, -, hstep⟩ := hafter.exists_step hmem
  cases hstep with
  | renew hholds =>
      refine not_heldBy_of_unacquired hrun hlost (fun hagain ↦ hafter' ?_) hholds
      exact hearly.subset (List.mem_append_left _ hagain)

end Runs

end RemoteInfra.Library

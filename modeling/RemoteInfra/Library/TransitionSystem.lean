import Mathlib.Data.List.Infix

/-!
# Runs of labelled transition systems

A run keeps the labels of its steps in order, so that a property may speak about
the history of a state and not only about the state.  Runs are taken under a step
condition, which may look at the history, the state before the step and the label;
the unconditional runs are those of the condition that always holds.
-/

namespace RemoteInfra.Library

structure TransitionSystem (State Label : Type*) where
  Init : State → Prop
  Step : State → Label → State → Prop

namespace TransitionSystem

variable {State Label : Type*} {T : TransitionSystem State Label}

/-- What is asked of a step: the labels before it, the state it leaves, its label. -/
abbrev StepCondition (State Label : Type*) := List Label → State → Label → Prop

/-- `T.RunWhere C ls s`: from an initial state, steps with labels `ls`, each of which
meets `C`, lead to `s`. -/
inductive RunWhere (T : TransitionSystem State Label) (C : StepCondition State Label) :
    List Label → State → Prop
  | init {s : State} : T.Init s → RunWhere T C [] s
  | step {ls : List Label} {s s' : State} {l : Label} :
      RunWhere T C ls s → C ls s l → T.Step s l s' → RunWhere T C (ls ++ [l]) s'

/-- Runs with no condition on their steps. -/
abbrev Run (T : TransitionSystem State Label) : List Label → State → Prop :=
  T.RunWhere fun _ _ _ ↦ True

/-- A property of history and state that starts true and that every step of a run
preserves holds along every run. -/
theorem RunWhere.invariant {C : StepCondition State Label} {P : List Label → State → Prop}
    (hinit : ∀ s, T.Init s → P [] s)
    (hstep : ∀ ls s l s', T.RunWhere C ls s → P ls s → C ls s l → T.Step s l s' →
      P (ls ++ [l]) s')
    {ls : List Label} {s : State} (hrun : T.RunWhere C ls s) : P ls s := by
  induction hrun with
  | init h => exact hinit _ h
  | step hrun hcond hs ih => exact hstep _ _ _ _ hrun ih hcond hs

/-- A weaker condition allows more runs. -/
theorem RunWhere.mono {C D : StepCondition State Label}
    (himp : ∀ ls s l, C ls s l → D ls s l) {ls : List Label} {s : State}
    (hrun : T.RunWhere C ls s) : T.RunWhere D ls s := by
  induction hrun with
  | init h => exact .init h
  | step _ hcond hs ih => exact .step ih (himp _ _ _ hcond) hs

/-- What every step of a run turns out to satisfy may be asked of its steps. -/
theorem RunWhere.strengthen {C D : StepCondition State Label}
    (himp : ∀ ls s l s', T.RunWhere C ls s → C ls s l → T.Step s l s' → D ls s l)
    {ls : List Label} {s : State} (hrun : T.RunWhere C ls s) : T.RunWhere D ls s := by
  induction hrun with
  | init h => exact .init h
  | step hrun hcond hs ih => exact .step ih (himp _ _ _ _ hrun hcond hs) hs

/-- A run passes a state before each of its labels. -/
theorem RunWhere.split {C : StepCondition State Label} {before after : List Label} {l : Label}
    {s : State} (hrun : T.RunWhere C (before ++ l :: after) s) :
    ∃ t t', T.RunWhere C before t ∧ C before t l ∧ T.Step t l t' := by
  generalize hls : before ++ l :: after = ls at hrun
  induction hrun generalizing after with
  | init => simp at hls
  | @step ls s s' l' hrun hcond hs ih =>
      rcases List.eq_nil_or_concat after with rfl | ⟨after, last, rfl⟩
      · obtain ⟨rfl, hl⟩ := List.append_inj' hls rfl
        obtain rfl : l = l' := List.singleton_inj.mp hl
        exact ⟨s, s', hrun, hcond, hs⟩
      · have hsplit : (before ++ l :: after) ++ [last] = ls ++ [l'] := by simpa using hls
        exact ih (List.append_inj' hsplit rfl).1

/-- Every label of a run is that of a step from a state that the run passed. -/
theorem RunWhere.exists_step {C : StepCondition State Label} {ls : List Label} {s : State}
    (hrun : T.RunWhere C ls s) {l : Label} (hmem : l ∈ ls) :
    ∃ before t t', before ++ [l] <+: ls ∧ T.RunWhere C before t ∧ C before t l ∧ T.Step t l t' := by
  obtain ⟨before, after, rfl⟩ := List.append_of_mem hmem
  obtain ⟨t, t', hstep⟩ := hrun.split
  exact ⟨before, t, t', ⟨after, by simp⟩, hstep⟩

/-- If no step with a property follows another, then only one label of a run has it. -/
theorem RunWhere.once {C : StepCondition State Label} {p : Label → Prop}
    (hagain : ∀ ls s l s', T.RunWhere C ls s → C ls s l → T.Step s l s' → p l →
      ∀ l' ∈ ls, ¬ p l')
    {ls : List Label} {s : State} (hrun : T.RunWhere C ls s) {l l' : Label} (hl : l ∈ ls)
    (hl' : l' ∈ ls) (hp : p l) (hp' : p l') : l = l' := by
  induction hrun with
  | init => simp at hl
  | step hrun hcond hs ih =>
      rcases List.mem_append.mp hl with hold | hnew
      · rcases List.mem_append.mp hl' with hold' | hnew'
        · exact ih hold hold'
        · obtain rfl := List.mem_singleton.mp hnew'
          exact absurd hp (hagain _ _ _ _ hrun hcond hs hp' l hold)
      · obtain rfl := List.mem_singleton.mp hnew
        rcases List.mem_append.mp hl' with hold' | hnew'
        · exact absurd hp' (hagain _ _ _ _ hrun hcond hs hp l' hold')
        · exact (List.mem_singleton.mp hnew').symm

/-- A property that a step gives up exactly when it does not meet the condition holds after
exactly those runs whose steps all meet it. -/
theorem RunWhere.holds_iff {C : StepCondition State Label} {P : State → Prop}
    (hinit : ∀ s, T.Init s → P s)
    (hstep : ∀ ls s l s', T.Run ls s → T.Step s l s' → (P s' ↔ P s ∧ C ls s l))
    {ls : List Label} {s : State} (hrun : T.Run ls s) : P s ↔ T.RunWhere C ls s := by
  constructor
  · intro hholds
    induction hrun with
    | init h => exact .init h
    | step hrun _ hs ih =>
        obtain ⟨hbefore, hcond⟩ := (hstep _ _ _ _ hrun hs).mp hholds
        exact .step (ih hbefore) hcond hs
  · intro hwhere
    clear hrun
    induction hwhere with
    | init h => exact hinit _ h
    | step hwhere hcond hs ih =>
        exact (hstep _ _ _ _ (hwhere.mono fun _ _ _ _ ↦ trivial) hs).mpr ⟨ih, hcond⟩

theorem RunWhere.toRun {C : StepCondition State Label} {ls : List Label} {s : State}
    (hrun : T.RunWhere C ls s) : T.Run ls s :=
  hrun.mono fun _ _ _ _ ↦ trivial

/-- Both conditions are asked of a step. -/
def StepCondition.and (C D : StepCondition State Label) : StepCondition State Label :=
  fun ls s l ↦ C ls s l ∧ D ls s l

theorem RunWhere.left {C D : StepCondition State Label} {ls : List Label} {s : State}
    (hrun : T.RunWhere (C.and D) ls s) : T.RunWhere C ls s :=
  hrun.mono fun _ _ _ h ↦ h.1

/-- The runs that go on from a state. -/
def startingAt (T : TransitionSystem State Label) (s : State) : TransitionSystem State Label where
  Init t := t = s
  Step := T.Step

theorem RunWhere.append {before after : List Label} {s t : State} (hbefore : T.Run before s)
    (hafter : (T.startingAt s).Run after t) : T.Run (before ++ after) t := by
  induction hafter with
  | init hinit =>
      obtain rfl := hinit
      rwa [List.append_nil]
  | step _ _ hstep ih =>
      rw [← List.append_assoc]
      exact .step ih trivial hstep

/-! ## History variables -/

section Memory

variable {Memory : Type*}

/-- `T` together with what `update` remembers of a run. -/
def remember (T : TransitionSystem State Label) (start : State → Memory)
    (update : Memory → State → Label → Memory) : TransitionSystem (State × Memory) Label where
  Init p := T.Init p.1 ∧ p.2 = start p.1
  Step p l q := T.Step p.1 l q.1 ∧ q.2 = update p.2 p.1 l

theorem RunWhere.forget {start : State → Memory} {update : Memory → State → Label → Memory}
    {C : StepCondition (State × Memory) Label} {ls : List Label} {p : State × Memory}
    (hrun : (T.remember start update).RunWhere C ls p) : T.Run ls p.1 := by
  induction hrun with
  | init h => exact .init h.1
  | step _ _ hs ih => exact .step ih trivial hs.1

end Memory

end TransitionSystem

end RemoteInfra.Library

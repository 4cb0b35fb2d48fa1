import RemoteInfra.Library.TransitionSystem

/-!
# Forward simulations

An abstract system simulates a concrete one when it takes part in every step that it sees: a
step whose label is seen is a step of its own, any other leaves it where it is.  What the
abstract system asks of its steps may look at the history that it has seen.
-/

namespace RemoteInfra.Library.TransitionSystem

variable {State Label AbstractState AbstractLabel : Type*} {T : TransitionSystem State Label}
  {A : TransitionSystem AbstractState AbstractLabel}

/-- `abstract` is what the abstract system shows of a state, `see` what it sees of a label. -/
structure Simulates (T : TransitionSystem State Label)
    (A : TransitionSystem AbstractState AbstractLabel) (C : StepCondition State Label)
    (D : StepCondition AbstractState AbstractLabel) (shows : State → AbstractState)
    (see : Label → Option AbstractLabel) : Prop where
  init : ∀ s, T.Init s → A.Init (shows s)
  unseen : ∀ ls s l s', T.RunWhere C ls s → C ls s l → T.Step s l s' → see l = none →
    shows s' = shows s
  seen : ∀ ls s l s' m, T.RunWhere C ls s → C ls s l → T.Step s l s' → see l = some m →
    D (ls.filterMap see) (shows s) m ∧ A.Step (shows s) m (shows s')

/-- What the abstract system sees of a run is a run of its own. -/
theorem Simulates.run {C : StepCondition State Label}
    {D : StepCondition AbstractState AbstractLabel} {shows : State → AbstractState}
    {see : Label → Option AbstractLabel} (h : Simulates T A C D shows see) {ls : List Label}
    {s : State} (hrun : T.RunWhere C ls s) : A.RunWhere D (ls.filterMap see) (shows s) := by
  induction hrun with
  | init hinit => exact .init (h.init _ hinit)
  | @step ls s s' l hrun hcond hstep ih =>
      rw [List.filterMap_append]
      cases hsee : see l with
      | none =>
          rw [h.unseen ls s l s' hrun hcond hstep hsee, List.filterMap_cons_none hsee,
            List.filterMap_nil, List.append_nil]
          exact ih
      | some m =>
          obtain ⟨hasked, habstract⟩ := h.seen ls s l s' m hrun hcond hstep hsee
          rw [List.filterMap_cons_some hsee, List.filterMap_nil]
          exact .step ih hasked habstract

/-- So is what it sees of a run that goes on. -/
theorem Simulates.run_on {D : StepCondition AbstractState AbstractLabel}
    {shows : State → AbstractState} {see : Label → Option AbstractLabel}
    (h : Simulates T A (fun _ _ _ ↦ True) D shows see) {before after : List Label} {s t : State}
    (hbefore : T.Run before s) (hafter : (T.startingAt s).Run after t) :
    (A.startingAt (shows s)).Run (after.filterMap see) (shows t) := by
  induction hafter with
  | init hinit =>
      obtain rfl := hinit
      exact .init rfl
  | @step after t t' l hafter _ hstep ih =>
      have hrun := hbefore.append hafter
      rw [List.filterMap_append]
      cases hsee : see l with
      | none =>
          rw [h.unseen _ t l t' hrun trivial hstep hsee, List.filterMap_cons_none hsee,
            List.filterMap_nil, List.append_nil]
          exact ih
      | some m =>
          obtain ⟨-, habstract⟩ := h.seen _ t l t' m hrun trivial hstep hsee
          rw [List.filterMap_cons_some hsee, List.filterMap_nil]
          exact .step ih trivial habstract

end RemoteInfra.Library.TransitionSystem

import RemoteInfra.Library.Pool

/-!
# Scheduled runs of pools

A schedule says whose turn it is and how the world answers.  Playing one computes the labels
and the state of a run, so that a particular run need not be written out step by step.
-/

namespace RemoteInfra.Library

/-- One turn of a schedule; `a` chooses among the replies that an effect may get. -/
inductive Turn (Call Env A : Type)
  | start (c : Call)
  | next (i : ℕ) (a : A)
  | pass (ev : Env)

namespace PoolSystem

variable {σ Call Env E : Type} {R : E → Type} {α : Type}

/-- A way to compute steps of the shared state. -/
structure Player (S : PoolSystem σ Call Env E R α) (A : Type) where
  exec : σ → (e : E) → A → Option (R e × σ)
  pass : σ → Env → Option σ
  exec_sound : ∀ {s e a r s'}, exec s e a = some (r, s') → S.Exec s e r s'
  pass_sound : ∀ {s ev s'}, pass s ev = some s' → S.EnvStep s ev s'

namespace Player

variable {S : PoolSystem σ Call Env E R α} {A : Type}

def turn (P : S.Player A) (st : PoolState σ Call E R α) :
    Turn Call Env A → Option (PoolLabel Call Env E R × PoolState σ Call E R α)
  | .start c => some (.spawn c, ⟨st.shared, st.pool ++ [(c, S.program c)]⟩)
  | .next i a =>
      match st.pool[i]? with
      | some (c, .call e next) =>
          match P.exec st.shared e a with
          | some (r, s) => some (.exec i c e r, ⟨s, st.pool.set i (c, next r)⟩)
          | none => none
      | _ => none
  | .pass ev =>
      match P.pass st.shared ev with
      | some s => some (.env ev, ⟨s, st.pool⟩)
      | none => none

theorem turn_sound (P : S.Player A) {st st' : PoolState σ Call E R α} {t : Turn Call Env A}
    {l : PoolLabel Call Env E R} (h : P.turn st t = some (l, st')) : S.system.Step st l st' := by
  obtain ⟨s, pool⟩ := st
  cases t with
  | start c =>
      obtain ⟨rfl, rfl⟩ := Prod.mk.inj (Option.some.inj h)
      exact .spawn s pool c
  | next i a =>
      simp only [turn] at h
      split at h
      · rename_i c e next hi
        split at h
        · rename_i r s' hexec
          obtain ⟨rfl, rfl⟩ := Prod.mk.inj (Option.some.inj h)
          exact .exec hi (P.exec_sound hexec)
        · cases h
      · cases h
  | pass ev =>
      simp only [turn] at h
      split at h
      · rename_i s' hpass
        obtain ⟨rfl, rfl⟩ := Prod.mk.inj (Option.some.inj h)
        exact .env (P.pass_sound hpass)
      · cases h

def play (P : S.Player A) (ls : List (PoolLabel Call Env E R)) (st : PoolState σ Call E R α) :
    List (Turn Call Env A) → Option (List (PoolLabel Call Env E R) × PoolState σ Call E R α)
  | [] => some (ls, st)
  | t :: ts =>
      match P.turn st t with
      | some (l, st') => P.play (ls ++ [l]) st' ts
      | none => none

/-- Every turn of the schedule meets the step condition. -/
def Keeps (P : S.Player A)
    (C : TransitionSystem.StepCondition (PoolState σ Call E R α) (PoolLabel Call Env E R))
    (ls : List (PoolLabel Call Env E R)) (st : PoolState σ Call E R α) :
    List (Turn Call Env A) → Prop
  | [] => True
  | t :: ts =>
      match P.turn st t with
      | some (l, st') => C ls st l ∧ P.Keeps C (ls ++ [l]) st' ts
      | none => True

theorem keeps_of_forall (P : S.Player A)
    {C : TransitionSystem.StepCondition (PoolState σ Call E R α) (PoolLabel Call Env E R)}
    (hC : ∀ ls st l, C ls st l) (ls : List (PoolLabel Call Env E R)) (st : PoolState σ Call E R α)
    (ts : List (Turn Call Env A)) : P.Keeps C ls st ts := by
  induction ts generalizing ls st with
  | nil => trivial
  | cons t ts ih =>
      simp only [Keeps]
      split
      · exact ⟨hC _ _ _, ih _ _⟩
      · trivial

/-- Whether every turn of the schedule passes a test. -/
def passes (P : S.Player A)
    (test : List (PoolLabel Call Env E R) → PoolState σ Call E R α → PoolLabel Call Env E R → Bool)
    (ls : List (PoolLabel Call Env E R)) (st : PoolState σ Call E R α) :
    List (Turn Call Env A) → Bool
  | [] => true
  | t :: ts =>
      match P.turn st t with
      | some (l, st') => test ls st l && P.passes test (ls ++ [l]) st' ts
      | none => true

theorem keeps_of_passes (P : S.Player A)
    {C : TransitionSystem.StepCondition (PoolState σ Call E R α) (PoolLabel Call Env E R)}
    {test : List (PoolLabel Call Env E R) → PoolState σ Call E R α →
      PoolLabel Call Env E R → Bool}
    (hC : ∀ ls st l, test ls st l → C ls st l) (ls : List (PoolLabel Call Env E R))
    (st : PoolState σ Call E R α) {ts : List (Turn Call Env A)} (h : P.passes test ls st ts) :
    P.Keeps C ls st ts := by
  induction ts generalizing ls st with
  | nil => trivial
  | cons t ts ih =>
      simp only [passes] at h
      simp only [Keeps]
      split
      · rename_i l st' hturn
        rw [hturn] at h
        obtain ⟨htest, hrest⟩ := Bool.and_eq_true_iff.mp h
        exact ⟨hC _ _ _ htest, ih _ _ hrest⟩
      · trivial

/-- A condition on which calls are started is one on the schedule. -/
theorem keeps_of_starts (P : S.Player A) {allowed : Call → Prop}
    {C : TransitionSystem.StepCondition (PoolState σ Call E R α) (PoolLabel Call Env E R)}
    (hC : ∀ ls st l, (∀ c, l = .spawn c → allowed c) → C ls st l)
    (ls : List (PoolLabel Call Env E R)) (st : PoolState σ Call E R α)
    {ts : List (Turn Call Env A)} (hts : ∀ c, Turn.start c ∈ ts → allowed c) :
    P.Keeps C ls st ts := by
  induction ts generalizing ls st with
  | nil => trivial
  | cons t ts ih =>
      have hrest : ∀ c, Turn.start c ∈ ts → allowed c :=
        fun c hc ↦ hts c (List.mem_cons_of_mem t hc)
      simp only [Keeps]
      split
      · rename_i l st' hturn
        refine ⟨hC _ _ _ ?_, ih _ _ hrest⟩
        rintro c rfl
        cases t with
        | start d =>
            obtain ⟨hlabel, -⟩ := Prod.mk.inj (Option.some.inj hturn)
            cases hlabel
            exact hts c List.mem_cons_self
        | next i a =>
            simp only [turn] at hturn
            split at hturn
            · split at hturn
              · cases hturn
              · cases hturn
            · cases hturn
        | pass ev =>
            simp only [turn] at hturn
            split at hturn
            · cases hturn
            · cases hturn
      · trivial

/-- The labels that came before are only carried along. -/
theorem play_append (P : S.Player A) (before ls : List (PoolLabel Call Env E R))
    (st : PoolState σ Call E R α) (ts : List (Turn Call Env A)) :
    P.play (before ++ ls) st ts = (P.play ls st ts).map fun p ↦ (before ++ p.1, p.2) := by
  induction ts generalizing ls st with
  | nil => rfl
  | cons t ts ih =>
      simp only [play]
      cases P.turn st t with
      | none => rfl
      | some next =>
          obtain ⟨l, st'⟩ := next
          dsimp only
          rw [List.append_assoc]
          exact ih (ls ++ [l]) st'

theorem run_of_turns (P : S.Player A)
    {T : TransitionSystem (PoolState σ Call E R α) (PoolLabel Call Env E R)}
    {C : TransitionSystem.StepCondition (PoolState σ Call E R α) (PoolLabel Call Env E R)}
    {ls ls' : List (PoolLabel Call Env E R)} {st st' : PoolState σ Call E R α}
    {ts : List (Turn Call Env A)} (hrun : T.RunWhere C ls st)
    (hplay : P.play ls st ts = some (ls', st')) (hkeeps : P.Keeps C ls st ts)
    (hT : ∀ {st l st'}, S.system.Step st l st' → T.Step st l st') : T.RunWhere C ls' st' := by
  induction ts generalizing ls st with
  | nil =>
      obtain ⟨rfl, rfl⟩ := Prod.mk.inj (Option.some.inj hplay)
      exact hrun
  | cons t ts ih =>
      simp only [play] at hplay
      simp only [Keeps] at hkeeps
      cases hturn : P.turn st t with
      | none => simp [hturn] at hplay
      | some next =>
          obtain ⟨l, t'⟩ := next
          rw [hturn] at hplay hkeeps
          obtain ⟨hcond, hrest⟩ := hkeeps
          exact ih (.step hrun hcond (hT (P.turn_sound hturn))) hplay hrest

theorem run_of_play (P : S.Player A)
    {C : TransitionSystem.StepCondition (PoolState σ Call E R α) (PoolLabel Call Env E R)}
    {ls ls' : List (PoolLabel Call Env E R)} {st st' : PoolState σ Call E R α}
    {ts : List (Turn Call Env A)} (hrun : S.system.RunWhere C ls st)
    (hplay : P.play ls st ts = some (ls', st')) (hkeeps : P.Keeps C ls st ts) :
    S.system.RunWhere C ls' st' :=
  P.run_of_turns hrun hplay hkeeps id

/-- A schedule goes on from any state. -/
theorem run_on_of_play (P : S.Player A) {ls : List (PoolLabel Call Env E R)}
    {st st' : PoolState σ Call E R α} {ts : List (Turn Call Env A)}
    (hplay : P.play [] st ts = some (ls, st')) : (S.system.startingAt st).Run ls st' := by
  have hinit : (S.system.startingAt st).Run [] st := .init rfl
  exact P.run_of_turns hinit hplay (P.keeps_of_forall (fun _ _ _ ↦ trivial) _ _ _) id

end Player

end PoolSystem

end RemoteInfra.Library

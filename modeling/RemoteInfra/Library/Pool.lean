import RemoteInfra.Library.Program
import RemoteInfra.Library.TransitionSystem

/-!
# Pools of programs over shared state

Any number of calls, each running its own program, take turns at single effects on one
shared state; an environment moves in between.
-/

namespace RemoteInfra.Library

/-- A shared state and how calls and their environment act on it. -/
structure PoolSystem (σ Call Env E : Type) (R : E → Type) (α : Type) where
  Init : σ → Prop
  program : Call → Program E R α
  Exec : σ → (e : E) → R e → σ → Prop
  EnvStep : σ → Env → σ → Prop

structure PoolState (σ Call E : Type) (R : E → Type) (α : Type) where
  shared : σ
  /-- every call ever started, with what is left of its program -/
  pool : List (Call × Program E R α)

inductive PoolLabel (Call Env E : Type) (R : E → Type)
  | spawn (c : Call)
  | exec (i : ℕ) (c : Call) (e : E) (r : R e)
  | env (ev : Env)

namespace PoolSystem

variable {σ Call Env E : Type} {R : E → Type} {α : Type}

inductive Step (S : PoolSystem σ Call Env E R α) :
    PoolState σ Call E R α → PoolLabel Call Env E R → PoolState σ Call E R α → Prop
  | spawn (s : σ) (p : List (Call × Program E R α)) (c : Call) :
      S.Step ⟨s, p⟩ (.spawn c) ⟨s, p ++ [(c, S.program c)]⟩
  | exec {s s' : σ} {p : List (Call × Program E R α)} {i : ℕ} {c : Call} {e : E}
      {next : R e → Program E R α} {r : R e} :
      p[i]? = some (c, .call e next) → S.Exec s e r s' →
        S.Step ⟨s, p⟩ (.exec i c e r) ⟨s', p.set i (c, next r)⟩
  | env {s s' : σ} {p : List (Call × Program E R α)} {ev : Env} :
      S.EnvStep s ev s' → S.Step ⟨s, p⟩ (.env ev) ⟨s', p⟩

def system (S : PoolSystem σ Call Env E R α) :
    TransitionSystem (PoolState σ Call E R α) (PoolLabel Call Env E R) where
  Init st := S.Init st.shared ∧ st.pool = []
  Step := S.Step

/-- A call that is in the pool was started. -/
theorem spawn_mem {S : PoolSystem σ Call Env E R α}
    {C : TransitionSystem.StepCondition (PoolState σ Call E R α) (PoolLabel Call Env E R)}
    {ls : List (PoolLabel Call Env E R)} {st : PoolState σ Call E R α}
    (hrun : S.system.RunWhere C ls st) {i : ℕ} {c : Call} {p : Program E R α}
    (hi : st.pool[i]? = some (c, p)) : PoolLabel.spawn c ∈ ls := by
  suffices h : ∀ t ∈ st.pool, PoolLabel.spawn t.1 ∈ ls from h _ (List.mem_of_getElem? hi)
  clear hi
  refine hrun.invariant (P := fun ls st ↦ ∀ t ∈ st.pool, PoolLabel.spawn t.1 ∈ ls) ?_ ?_
  · rintro ⟨s, pool⟩ ⟨-, hpool⟩ t ht
    obtain rfl : pool = [] := hpool
    simp at ht
  · rintro ls st l st' - ih - hstep t ht
    cases hstep with
    | spawn s pool c =>
        rcases List.mem_append.mp ht with ht | ht
        · exact List.mem_append_left _ (ih t ht)
        · obtain rfl := List.mem_singleton.mp ht
          simp
    | @exec s s' pool i c e next r hi =>
        rcases List.mem_or_eq_of_mem_set ht with ht | rfl
        · exact List.mem_append_left _ (ih t ht)
        · exact List.mem_append_left _ (ih (c, .call e next) (List.mem_of_getElem? hi))
    | env => exact List.mem_append_left _ (ih t ht)

/-- Whoever took a step is in the pool, in the place it had. -/
theorem pool_of_mem {S : PoolSystem σ Call Env E R α}
    {C : TransitionSystem.StepCondition (PoolState σ Call E R α) (PoolLabel Call Env E R)}
    {ls : List (PoolLabel Call Env E R)} {st : PoolState σ Call E R α}
    (hrun : S.system.RunWhere C ls st) {i : ℕ} {c : Call} {e : E} {r : R e}
    (hmem : .exec i c e r ∈ ls) : ∃ p, st.pool[i]? = some (c, p) := by
  induction hrun with
  | init => simp at hmem
  | @step ls st st' l hrun hcond hstep ih =>
      rcases List.mem_append.mp hmem with hmem | hmem
      · obtain ⟨p, hp⟩ := ih hmem
        cases hstep with
        | spawn s pool d =>
            have hlt : i < pool.length := (List.getElem?_eq_some_iff.mp hp).1
            exact ⟨p, by rw [List.getElem?_append_left hlt]; exact hp⟩
        | @exec s s' pool j d e' next r' hj _ =>
            by_cases hij : j = i
            · subst hij
              obtain ⟨rfl, rfl⟩ := Prod.mk.inj (Option.some.inj (hp.symm.trans hj))
              have hlt : j < pool.length := (List.getElem?_eq_some_iff.mp hp).1
              exact ⟨_, List.getElem?_set_self hlt⟩
            · exact ⟨p, by rw [List.getElem?_set_ne hij]; exact hp⟩
        | env => exact ⟨p, hp⟩
      · obtain rfl := List.mem_singleton.mp hmem
        cases hstep with
        | @exec s s' pool _ _ _ next _ hi _ =>
            have hlt : i < pool.length := (List.getElem?_eq_some_iff.mp hi).1
            exact ⟨_, List.getElem?_set_self hlt⟩

/-- A call that has ended stays as it is. -/
theorem ended_of_run {S : PoolSystem σ Call Env E R α} {ls : List (PoolLabel Call Env E R)}
    {st st' : PoolState σ Call E R α} (hrun : (S.system.startingAt st).Run ls st') {i : ℕ}
    {c : Call} {a : α} (hi : st.pool[i]? = some (c, .pure a)) :
    st'.pool[i]? = some (c, .pure a) := by
  induction hrun with
  | init hinit =>
      obtain rfl := hinit
      exact hi
  | step _ _ hstep ih =>
      cases hstep with
      | env => exact ih
      | spawn s pool d =>
          have hlt : i < pool.length := (List.getElem?_eq_some_iff.mp ih).1
          rwa [List.getElem?_append_left hlt]
      | @exec s s' pool j d e next r hj _ =>
          have hne : j ≠ i := by
            rintro rfl
            cases hj.symm.trans ih
          rwa [List.getElem?_set_ne hne]

/-- If a call is started only when no earlier call clashes with it, then no two calls in the
pool clash. -/
theorem pool_unique {S : PoolSystem σ Call Env E R α}
    {C : TransitionSystem.StepCondition (PoolState σ Call E R α) (PoolLabel Call Env E R)}
    {clash : Call → Call → Prop} (hsymm : ∀ c d, clash c d → clash d c)
    (hnew : ∀ ls st c, C ls st (.spawn c) → ∀ d, .spawn d ∈ ls → ¬ clash d c)
    {ls : List (PoolLabel Call Env E R)} {st : PoolState σ Call E R α}
    (hrun : S.system.RunWhere C ls st) {i j : ℕ} {c d : Call} {p q : Program E R α}
    (hi : st.pool[i]? = some (c, p)) (hj : st.pool[j]? = some (d, q)) (hclash : clash c d) :
    i = j := by
  induction hrun generalizing i j c d p q with
  | @init st hinit =>
      obtain ⟨-, hpool⟩ := hinit
      simp [hpool] at hi
  | @step ls st st' l hrun hcond hstep ih =>
      cases hstep with
      | env => exact ih hi hj hclash
      | @exec w w' pool k c' e next reply hk _ =>
          have hbefore : ∀ {i : ℕ} {c : Call} {p : Program E R α},
              (pool.set k (c', next reply))[i]? = some (c, p) → ∃ p', pool[i]? = some (c, p') := by
            intro i c p hi
            by_cases hki : k = i
            · subst hki
              have hlt : k < pool.length := (List.getElem?_eq_some_iff.mp hk).1
              rw [List.getElem?_set_self hlt] at hi
              obtain ⟨rfl, -⟩ := Prod.mk.inj (Option.some.inj hi)
              exact ⟨_, hk⟩
            · rw [List.getElem?_set_ne hki] at hi
              exact ⟨p, hi⟩
          obtain ⟨p', hp'⟩ := hbefore hi
          obtain ⟨q', hq'⟩ := hbefore hj
          exact ih hp' hq' hclash
      | spawn w pool c' =>
          have hplace : ∀ {i : ℕ} {c : Call} {p : Program E R α},
              (pool ++ [(c', S.program c')])[i]? = some (c, p) →
                pool[i]? = some (c, p) ∨ (i = pool.length ∧ c = c') := by
            intro i c p hi
            rcases lt_or_ge i pool.length with hlt | hge
            · rw [List.getElem?_append_left hlt] at hi
              exact .inl hi
            · rw [List.getElem?_append_right hge, List.getElem?_singleton] at hi
              split_ifs at hi with hzero
              obtain ⟨rfl, -⟩ := Prod.mk.inj (Option.some.inj hi)
              exact .inr ⟨le_antisymm (Nat.sub_eq_zero_iff_le.mp hzero) hge, rfl⟩
          rcases hplace hi with hold | ⟨rfl, rfl⟩
          · rcases hplace hj with hold' | ⟨rfl, rfl⟩
            · exact ih hold hold' hclash
            · exact absurd hclash (hnew _ _ _ hcond c (spawn_mem hrun hold))
          · rcases hplace hj with hold' | ⟨rfl, -⟩
            · exact absurd (hsymm _ _ hclash) (hnew _ _ _ hcond d (spawn_mem hrun hold'))
            · rfl

/-- What holds of the shared state at first, and is kept by every effect that is allowed while
it holds, holds throughout, if the programs ask only for those effects as long as it does. -/
theorem invariant_of_keeps {S : PoolSystem σ Call Env E R α}
    {C : TransitionSystem.StepCondition (PoolState σ Call E R α) (PoolLabel Call Env E R)}
    {I : σ → Prop} {allowed : E → Prop} {told : (e : E) → R e → Prop} {Q : Call → α → Prop}
    (hinit : ∀ s, S.Init s → I s)
    (hspawn : ∀ ls st c, C ls st (.spawn c) → (S.program c).Keeps allowed told (Q c))
    (hexec : ∀ s e r s', I s → allowed e → S.Exec s e r s' → told e r ∧ I s')
    (henv : ∀ s ev s', I s → S.EnvStep s ev s' → I s')
    {ls : List (PoolLabel Call Env E R)} {st : PoolState σ Call E R α}
    (hrun : S.system.RunWhere C ls st) :
    I st.shared ∧ ∀ t ∈ st.pool, t.2.Keeps allowed told (Q t.1) := by
  refine hrun.invariant (P := fun _ st ↦ I st.shared ∧
    ∀ t ∈ st.pool, t.2.Keeps allowed told (Q t.1)) ?_ ?_
  · rintro ⟨s, pool⟩ ⟨hstart, hpool⟩
    obtain rfl : pool = [] := hpool
    exact ⟨hinit s hstart, by simp⟩
  · rintro ls st l st' - ⟨hshared, hpool⟩ hcond hstep
    cases hstep with
    | spawn s pool c =>
        refine ⟨hshared, fun t ht ↦ ?_⟩
        rcases List.mem_append.mp ht with ht | ht
        · exact hpool t ht
        · obtain rfl := List.mem_singleton.mp ht
          exact hspawn _ _ c hcond
    | @exec s s' pool i c e next r hi hexec' =>
        have hkeeps : (Program.call e next).Keeps allowed told (Q c) :=
          hpool (c, .call e next) (List.mem_of_getElem? hi)
        obtain ⟨htold, hshared'⟩ := hexec s e r s' hshared hkeeps.allowed hexec'
        refine ⟨hshared', fun t ht ↦ ?_⟩
        rcases List.mem_or_eq_of_mem_set ht with ht | rfl
        · exact hpool t ht
        · exact hkeeps.next htold
    | env hmoved => exact ⟨henv _ _ _ hshared hmoved, hpool⟩

end PoolSystem

end RemoteInfra.Library

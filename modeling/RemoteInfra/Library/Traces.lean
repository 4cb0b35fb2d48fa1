import Mathlib.Data.List.Infix
import RemoteInfra.Library.Pool

/-!
# Traces of single calls

What one call of a pool has asked for and been told, in order.  A call's own trace settles
where it is in its program, whatever the other calls did meanwhile; so what a program asks
for, and returns, can be said of its trace alone.
-/

namespace RemoteInfra.Library

/-- An effect with its reply. -/
abbrev Event (E : Type) (R : E → Type) := (e : E) × R e

/-- The outline of a program that is told nothing but its own replies. -/
def Outline.tracing {E : Type} {R : E → Type} (asks : List (Event E R) → E → Prop) :
    Outline (List (Event E R)) E R where
  rely tr tr' := tr' = tr
  allowed := asks
  after tr e r tr' := tr' = tr ++ [⟨e, r⟩]
  rely_refl _ := rfl
  rely_trans h h' := h'.trans h

namespace Program

variable {E : Type} {R : E → Type} {α β : Type}

/-- Having gone through `tr`, the program asks for effects only as `asks` permits after the
trace it then has, and returns only results that satisfy `Q` with its whole trace. -/
abbrev Follows (asks : List (Event E R) → E → Prop) (Q : List (Event E R) → α → Prop)
    (p : Program E R α) (tr : List (Event E R)) : Prop :=
  p.Meets (Outline.tracing asks) Q tr

variable {asks : List (Event E R) → E → Prop} {Q : List (Event E R) → α → Prop}
  {tr : List (Event E R)}

theorem Follows.pure {a : α} (h : Q tr a) : Follows asks Q (Pure.pure a : Program E R α) tr := by
  rintro tr' rfl
  exact h

theorem Follows.call {e : E} {next : R e → Program E R α} (he : asks tr e)
    (hnext : ∀ r, Follows asks Q (next r) (tr ++ [⟨e, r⟩])) :
    Follows asks Q (Program.call e next) tr := by
  rintro tr' rfl
  refine ⟨he, ?_⟩
  rintro r tr'' rfl
  exact hnext r

theorem Follows.bind {Q : List (Event E R) → β → Prop} {p : Program E R α}
    {f : α → Program E R β} (h : Follows asks (fun tr' a ↦ Follows asks Q (f a) tr') p tr) :
    Follows asks Q (p >>= f) tr :=
  Meets.bind h

theorem Follows.mono {Q' : List (Event E R) → α → Prop} (himp : ∀ tr a, Q tr a → Q' tr a)
    {p : Program E R α} (h : Follows asks Q p tr) : Follows asks Q' p tr :=
  Meets.mono himp h

/-- A program that asks for harmless effects only adds harmless events to its trace. -/
theorem OnlyAsks.follows {allowed : E → Prop} {p : Program E R α} (h : OnlyAsks allowed p)
    (hasks : ∀ tr e, allowed e → asks tr e) :
    Follows asks (fun tr' _ ↦ ∃ evs, tr' = tr ++ evs ∧ ∀ ev ∈ evs, allowed ev.1) p tr := by
  induction p generalizing tr with
  | pure a => exact Follows.pure ⟨[], by simp, by simp⟩
  | call e next ih =>
      refine Follows.call (hasks tr e h.allowed) fun r ↦ ?_
      have hnext : OnlyAsks allowed (next r) := h.next trivial
      refine Follows.mono ?_ (ih r hnext)
      rintro tr' a ⟨evs, rfl, hevs⟩
      refine ⟨⟨e, r⟩ :: evs, by simp, fun ev hev ↦ ?_⟩
      rcases List.mem_cons.mp hev with rfl | hev
      · exact h.allowed
      · exact hevs ev hev

theorem Follows.onlyAsks {allowed : E → Prop} (hasks : ∀ tr e, asks tr e → allowed e)
    {p : Program E R α} (h : Follows asks Q p tr) : OnlyAsks allowed p := by
  induction p generalizing tr with
  | pure a => exact OnlyAsks.pure a
  | call e next ih =>
      refine OnlyAsks.call (hasks tr e (Meets.allowed h)) fun r ↦ ?_
      have hnext : Follows asks Q (next r) (tr ++ [⟨e, r⟩]) := Meets.next h rfl
      exact ih r hnext

end Program

namespace PoolSystem

variable {σ Call Env E : Type} {R : E → Type} {α : Type}

/-- The event of call `i` that a label is, if any. -/
def eventOf (i : ℕ) : PoolLabel Call Env E R → Option (Event E R)
  | .exec j _ e r => if j = i then some ⟨e, r⟩ else none
  | _ => none

/-- What call `i` has gone through in the history `ls`. -/
def trace (i : ℕ) (ls : List (PoolLabel Call Env E R)) : List (Event E R) :=
  ls.filterMap (eventOf i)

@[simp] theorem trace_nil (i : ℕ) : trace i ([] : List (PoolLabel Call Env E R)) = [] := rfl

theorem trace_append (i : ℕ) (ls ls' : List (PoolLabel Call Env E R)) :
    trace i (ls ++ ls') = trace i ls ++ trace i ls' :=
  List.filterMap_append

@[simp] theorem trace_spawn (i : ℕ) (ls : List (PoolLabel Call Env E R)) (c : Call) :
    trace i (ls ++ [.spawn c]) = trace i ls := by
  simp [trace, eventOf, List.filterMap_append]

@[simp] theorem trace_env (i : ℕ) (ls : List (PoolLabel Call Env E R)) (ev : Env) :
    trace i (ls ++ [.env ev]) = trace i ls := by
  simp [trace, eventOf, List.filterMap_append]

theorem trace_exec_self (i : ℕ) (ls : List (PoolLabel Call Env E R)) (c : Call) (e : E) (r : R e) :
    trace i (ls ++ [.exec i c e r]) = trace i ls ++ [⟨e, r⟩] := by
  simp [trace, eventOf, List.filterMap_append]

theorem trace_exec_of_ne {i j : ℕ} (h : j ≠ i) (ls : List (PoolLabel Call Env E R)) (c : Call)
    (e : E) (r : R e) : trace i (ls ++ [.exec j c e r]) = trace i ls := by
  simp [trace, eventOf, List.filterMap_append, h]

/-- An event of a call is a step of the history. -/
theorem mem_trace {i : ℕ} {ls : List (PoolLabel Call Env E R)} {e : E} {r : R e} :
    ⟨e, r⟩ ∈ trace i ls ↔ ∃ c, .exec i c e r ∈ ls := by
  simp only [trace, List.mem_filterMap]
  constructor
  · rintro ⟨l, hl, heq⟩
    cases l with
    | exec j c e' r' =>
        simp only [eventOf] at heq
        split_ifs at heq with hj
        subst hj
        cases heq
        exact ⟨c, hl⟩
    | spawn | env => cases heq
  · rintro ⟨c, hl⟩
    exact ⟨_, hl, by simp [eventOf]⟩

/-- What holds of every call at its start, and is kept by every effect the call asks for, holds
of the call with its own trace. -/
theorem traced_of_run {S : PoolSystem σ Call Env E R α}
    {C : TransitionSystem.StepCondition (PoolState σ Call E R α) (PoolLabel Call Env E R)}
    {P : Call → List (Event E R) → Program E R α → Prop} (hstart : ∀ c, P c [] (S.program c))
    (hcall : ∀ c tr e next r, P c tr (.call e next) → P c (tr ++ [⟨e, r⟩]) (next r))
    {ls : List (PoolLabel Call Env E R)} {st : PoolState σ Call E R α}
    (hrun : S.system.RunWhere C ls st) :
    (∀ i, st.pool.length ≤ i → trace i ls = []) ∧
      ∀ (i : ℕ) (c : Call) (p : Program E R α), st.pool[i]? = some (c, p) →
        P c (trace i ls) p := by
  refine hrun.invariant (P := fun ls st ↦ (∀ i, st.pool.length ≤ i → trace i ls = []) ∧
    ∀ (i : ℕ) (c : Call) (p : Program E R α), st.pool[i]? = some (c, p) →
      P c (trace i ls) p) ?_ ?_
  · rintro ⟨s, pool⟩ ⟨-, hpool⟩
    obtain rfl : pool = [] := hpool
    exact ⟨fun _ _ ↦ rfl, fun i c p hi ↦ by simp at hi⟩
  · rintro ls st l st' - ⟨hfresh, htraced⟩ - hstep
    cases hstep with
    | spawn s pool c =>
        refine ⟨fun i hi ↦ ?_, fun i d q hq ↦ ?_⟩
        · rw [List.length_append] at hi
          rw [trace_spawn]
          exact hfresh i (Nat.le_of_add_right_le hi)
        · rw [trace_spawn]
          rcases lt_or_ge i pool.length with hlt | hge
          · rw [List.getElem?_append_left hlt] at hq
            exact htraced i d q hq
          · rw [List.getElem?_append_right hge, List.getElem?_singleton] at hq
            split_ifs at hq with hzero
            obtain ⟨rfl, rfl⟩ := Prod.mk.inj (Option.some.inj hq)
            rw [hfresh i hge]
            exact hstart c
    | @exec s s' pool i c e next r hi hexec =>
        have hlt : i < pool.length := (List.getElem?_eq_some_iff.mp hi).1
        refine ⟨fun j hj ↦ ?_, fun j d q hq ↦ ?_⟩
        · rw [List.length_set] at hj
          rw [trace_exec_of_ne (by omega)]
          exact hfresh j hj
        · by_cases hji : j = i
          · subst hji
            rw [List.getElem?_set_self hlt] at hq
            obtain ⟨rfl, rfl⟩ := Prod.mk.inj (Option.some.inj hq)
            rw [trace_exec_self]
            exact hcall _ _ _ _ _ (htraced j c _ hi)
          · rw [List.getElem?_set_ne (Ne.symm hji)] at hq
            rw [trace_exec_of_ne (Ne.symm hji)]
            exact htraced j d q hq
    | env =>
        refine ⟨fun i hi ↦ ?_, fun i d q hq ↦ ?_⟩
        · rw [trace_env]
          exact hfresh i hi
        · rw [trace_env]
          exact htraced i d q hq

/-- Every call of a run follows its program: what is left of it is what its own trace
left. -/
theorem follows_of_run {S : PoolSystem σ Call Env E R α}
    {C : TransitionSystem.StepCondition (PoolState σ Call E R α) (PoolLabel Call Env E R)}
    {asks : Call → List (Event E R) → E → Prop} {Q : Call → List (Event E R) → α → Prop}
    (hprogram : ∀ c, (S.program c).Follows (asks c) (Q c) [])
    {ls : List (PoolLabel Call Env E R)} {st : PoolState σ Call E R α}
    (hrun : S.system.RunWhere C ls st) :
    (∀ i, st.pool.length ≤ i → trace i ls = []) ∧
      ∀ (i : ℕ) (c : Call) (p : Program E R α), st.pool[i]? = some (c, p) →
        p.Follows (asks c) (Q c) (trace i ls) :=
  traced_of_run (P := fun c tr p ↦ p.Follows (asks c) (Q c) tr) hprogram
    (fun _ _ _ _ _ hfollows ↦ Program.Meets.next hfollows rfl) hrun

/-- Every effect of a run was asked for by a call that was started, as its own trace at that
moment permits. -/
theorem asks_of_mem {S : PoolSystem σ Call Env E R α}
    {C : TransitionSystem.StepCondition (PoolState σ Call E R α) (PoolLabel Call Env E R)}
    {asks : Call → List (Event E R) → E → Prop} {Q : Call → List (Event E R) → α → Prop}
    (hprogram : ∀ c, (S.program c).Follows (asks c) (Q c) [])
    {ls : List (PoolLabel Call Env E R)} {st : PoolState σ Call E R α}
    (hrun : S.system.RunWhere C ls st) {i : ℕ} {c : Call} {e : E} {r : R e}
    (hmem : .exec i c e r ∈ ls) :
    PoolLabel.spawn c ∈ ls ∧ ∃ before, before <+: ls ∧ asks c (trace i before) e := by
  induction hrun with
  | init => simp at hmem
  | @step ls s s' l hrun hcond hstep ih =>
      rcases List.mem_append.mp hmem with hmem | hmem
      · obtain ⟨hspawn, before, hprefix, hasks⟩ := ih hmem
        exact ⟨List.mem_append_left _ hspawn, before, hprefix.trans (List.prefix_append _ _),
          hasks⟩
      · obtain rfl := List.mem_singleton.mp hmem
        cases hstep with
        | exec hi hexec =>
            have hfollows := (follows_of_run hprogram hrun).2 i c _ hi
            exact ⟨List.mem_append_left _ (spawn_mem hrun hi), ls, List.prefix_append _ _,
              Program.Meets.allowed hfollows⟩

theorem follows_of_onlyAsks {S : PoolSystem σ Call Env E R α} {A : Call → E → Prop}
    (hprogram : ∀ c, (S.program c).OnlyAsks (A c)) (c : Call) :
    (S.program c).Follows (fun _ ↦ A c) (fun _ _ ↦ True) [] :=
  Program.Follows.mono (fun _ _ _ ↦ trivial) ((hprogram c).follows fun _ _ he ↦ he)

/-- Calls whose programs only ask for certain effects only ever ask for those. -/
theorem asks_of_step {S : PoolSystem σ Call Env E R α}
    {C : TransitionSystem.StepCondition (PoolState σ Call E R α) (PoolLabel Call Env E R)}
    {A : Call → E → Prop} (hprogram : ∀ c, (S.program c).OnlyAsks (A c))
    {ls : List (PoolLabel Call Env E R)} {st st' : PoolState σ Call E R α}
    (hrun : S.system.RunWhere C ls st) {i : ℕ} {c : Call} {e : E} {r : R e}
    (hstep : S.system.Step st (.exec i c e r) st') : A c e := by
  cases hstep with
  | exec hi _ =>
      exact Program.Meets.allowed ((follows_of_run (follows_of_onlyAsks hprogram) hrun).2 i c _ hi)

end PoolSystem

end RemoteInfra.Library

import RemoteInfra.Library.Sequential
import RemoteInfra.Library.Traces

/-!
# Serial orders of a pool's calls

A serial run serves one call after the other and remembers the states it passes.  A call that
would change nothing at such a state may be put in there later.  For that, a program must not
look at the state again, unless it is going to write.
-/

namespace RemoteInfra.Library

namespace Program

variable {S E : Type} {R : E → Type} {α : Type} {X : S → (e : E) → R e → S → Prop}

/-- Having gone through `tr`, `p` is `p'`. -/
inductive Along (p : Program E R α) : List (Event E R) → Program E R α → Prop
  | start : Along p [] p
  | step {tr : List (Event E R)} {e : E} {next : R e → Program E R α} (r : R e) :
      Along p tr (.call e next) → Along p (tr ++ [⟨e, r⟩]) (next r)

/-- With nobody else running, `p` may take `s` to `s'` and then be `p'`. -/
inductive Leads (X : S → (e : E) → R e → S → Prop) (s : S) (p : Program E R α) :
    Program E R α → S → Prop
  | start : Leads X s p p s
  | step {e : E} {next : R e → Program E R α} {r : R e} {s' s'' : S} :
      Leads X s p (.call e next) s' → X s' e r s'' → Leads X s p (next r) s''

theorem Leads.completes {s s' : S} {p p' : Program E R α} {a : α} {s'' : S}
    (h : Leads X s p p' s') (hrest : Completes X s' p' a s'') : Completes X s p a s'' := by
  induction h with
  | start => exact hrest
  | step _ hexec ih => exact ih (.call hexec hrest)

/-! ## Programs that write before they end -/

variable {β : Type} {writes idle : E → Prop} {told : (e : E) → R e → Prop}

/-- If replies are as `told`, the program asks for an effect that writes before it ends. -/
inductive Commits (writes : E → Prop) (told : (e : E) → R e → Prop) : Program E R α → Prop
  | write {e : E} {next : R e → Program E R α} : writes e → Commits writes told (.call e next)
  | call {e : E} {next : R e → Program E R α} :
      (∀ r, told e r → Commits writes told (next r)) → Commits writes told (.call e next)

/-- Before it is certain that it writes, the program asks for idle effects only.  If it ends
without having written, its result satisfies `Q`. -/
inductive Undecided (writes idle : E → Prop) (told : (e : E) → R e → Prop) (Q : α → Prop) :
    Program E R α → Prop
  | pure {a : α} : Q a → Undecided writes idle told Q (.pure a)
  | commits {p : Program E R α} : Commits writes told p → Undecided writes idle told Q p
  | call {e : E} {next : R e → Program E R α} : idle e →
      (∀ r, told e r → Undecided writes idle told Q (next r)) →
        Undecided writes idle told Q (.call e next)

theorem Commits.next {e : E} {next : R e → Program E R α}
    (h : Commits writes told (.call e next)) (he : ¬writes e) {r : R e} (hr : told e r) :
    Commits writes told (next r) := by
  cases h with
  | write hwrites => exact absurd hwrites he
  | call hnext => exact hnext r hr

theorem Commits.bind {p : Program E R α} (h : Commits writes told p)
    (f : α → Program E R β) : Commits writes told (p >>= f) := by
  induction h with
  | write hwrites => exact .write hwrites
  | call _ ih => exact .call ih

theorem Undecided.mono {P Q : α → Prop} (himp : ∀ a, P a → Q a) {p : Program E R α}
    (h : Undecided writes idle told P p) : Undecided writes idle told Q p := by
  induction h with
  | pure ha => exact .pure (himp _ ha)
  | commits hcommits => exact .commits hcommits
  | call hidle _ ih => exact .call hidle ih

theorem Undecided.bind {P : α → Prop} {Q : β → Prop} {p : Program E R α}
    (h : Undecided writes idle told P p) {f : α → Program E R β}
    (hf : ∀ a, P a → Undecided writes idle told Q (f a)) :
    Undecided writes idle told Q (p >>= f) := by
  induction h with
  | pure ha => exact hf _ ha
  | commits hcommits => exact .commits (hcommits.bind f)
  | call hidle _ ih => exact .call hidle ih

theorem Undecided.commits_bind {P : α → Prop} {p : Program E R α}
    (h : Undecided writes idle told P p) {f : α → Program E R β}
    (hf : ∀ a, P a → Commits writes told (f a)) : Commits writes told (p >>= f) := by
  induction h with
  | pure ha => exact hf _ ha
  | commits hcommits => exact hcommits.bind f
  | call _ _ ih => exact .call ih

end Program

namespace PoolSystem

variable {σ Call Env E : Type} {R : E → Type} {α : Type} {S : PoolSystem σ Call Env E R α}

/-- What is left of a call is what its own trace left. -/
theorem along_of_run
    {C : TransitionSystem.StepCondition (PoolState σ Call E R α) (PoolLabel Call Env E R)}
    {ls : List (PoolLabel Call Env E R)} {st : PoolState σ Call E R α}
    (hrun : S.system.RunWhere C ls st) :
    (∀ i, st.pool.length ≤ i → trace i ls = []) ∧
      ∀ (i : ℕ) (c : Call) (p : Program E R α), st.pool[i]? = some (c, p) →
        (S.program c).Along (trace i ls) p :=
  traced_of_run (fun _ ↦ .start) (fun _ _ _ _ r hrest ↦ .step r hrest) hrun

/-- One of the calls, by its place in the pool, with its result. -/
abbrev Served (Call α : Type) := ℕ × Call × α

/-- `calls` are served one after the other, from `s`, and the states in `passed` are passed. -/
inductive Serial (S : PoolSystem σ Call Env E R α) (s : σ) :
    List (Served Call α) → List σ → σ → Prop
  | start : Serial S s [] [s] s
  | env {calls : List (Served Call α)} {passed : List σ} {s' s'' : σ} {ev : Env} :
      Serial S s calls passed s' → S.EnvStep s' ev s'' → Serial S s calls (passed ++ [s'']) s''
  | call {calls : List (Served Call α)} {passed : List σ} {s' s'' : σ} {i : ℕ} {c : Call}
      {a : α} : Serial S s calls passed s' → (S.program c).Completes S.Exec s' a s'' →
        Serial S s (calls ++ [(i, c, a)]) (passed ++ [s'']) s''

namespace Serial

variable {s s' : σ} {calls : List (Served Call α)} {passed : List σ}

/-- A call that leaves a state as it found it may be served when that state is passed. -/
theorem insert (h : S.Serial s calls passed s') {u : σ} (hu : u ∈ passed) {i : ℕ} {c : Call}
    {a : α} (hcall : (S.program c).Completes S.Exec u a u) :
    ∃ calls' passed', calls'.Perm ((i, c, a) :: calls) ∧ passed ⊆ passed' ∧
      S.Serial s calls' passed' s' := by
  have hlast : ∀ {calls : List (Served Call α)} {passed : List σ} {t : σ},
      S.Serial s calls passed t → u = t →
        ∃ calls' passed', calls'.Perm ((i, c, a) :: calls) ∧ passed ⊆ passed' ∧
          S.Serial s calls' passed' t := by
    rintro calls passed t h rfl
    exact ⟨_, _, List.perm_append_singleton _ _, List.subset_append_left _ _, .call h hcall⟩
  have hgrow : ∀ {passed passed' : List σ} (t : σ), passed ⊆ passed' →
      passed ++ [t] ⊆ passed' ++ [t] := fun t hsub ↦
    List.append_subset.mpr
      ⟨List.subset_append_of_subset_left _ hsub, List.subset_append_right _ _⟩
  induction h with
  | start => exact hlast .start (List.mem_singleton.mp hu)
  | env h hmoved ih =>
      rcases List.mem_append.mp hu with hu | hu
      · obtain ⟨calls', passed', hperm, hsub, hserial⟩ := ih hu
        exact ⟨calls', _, hperm, hgrow _ hsub, .env hserial hmoved⟩
      · exact hlast (.env h hmoved) (List.mem_singleton.mp hu)
  | @call calls passed t t' j d b h hserved ih =>
      rcases List.mem_append.mp hu with hu | hu
      · obtain ⟨calls', passed', hperm, hsub, hserial⟩ := ih hu
        refine ⟨calls' ++ [(j, d, b)], _, ?_, ?_, .call hserial hserved⟩
        · exact hperm.append_right _
        · exact hgrow _ hsub
      · exact hlast (.call h hserved) (List.mem_singleton.mp hu)

end Serial

end PoolSystem

end RemoteInfra.Library

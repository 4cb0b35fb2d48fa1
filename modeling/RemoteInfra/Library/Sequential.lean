import RemoteInfra.Library.Program

/-!
# Programs that run alone

`Completes X s p a s'`: with nobody else running, `p` may return `a` and take `s` to `s'`, when
`X` says what each single effect may do.
-/

namespace RemoteInfra.Library.Program

variable {S E : Type} {R : E → Type} {α β : Type} {X Y : S → (e : E) → R e → S → Prop}

inductive Completes (X : S → (e : E) → R e → S → Prop) : S → Program E R α → α → S → Prop
  | pure (s : S) (a : α) : Completes X s (.pure a) a s
  | call {s s' s'' : S} {e : E} {r : R e} {next : R e → Program E R α} {a : α} :
      X s e r s' → Completes X s' (next r) a s'' → Completes X s (.call e next) a s''

@[simp] theorem completes_pure_iff {s s' : S} {a b : α} :
    Completes X s (.pure a : Program E R α) b s' ↔ b = a ∧ s' = s := by
  constructor
  · rintro ⟨⟩
    exact ⟨rfl, rfl⟩
  · rintro ⟨rfl, rfl⟩
    exact .pure s' b

theorem completes_call_iff {s s'' : S} {e : E} {next : R e → Program E R α} {a : α} :
    Completes X s (.call e next) a s'' ↔ ∃ r s', X s e r s' ∧ Completes X s' (next r) a s'' := by
  constructor
  · rintro (_ | ⟨hexec, hrest⟩)
    exact ⟨_, _, hexec, hrest⟩
  · rintro ⟨r, s', hexec, hrest⟩
    exact .call hexec hrest

theorem completes_bind_iff {s s'' : S} {p : Program E R α} {f : α → Program E R β} {b : β} :
    Completes X s (p >>= f) b s'' ↔
      ∃ a s', Completes X s p a s' ∧ Completes X s' (f a) b s'' := by
  constructor
  · intro h
    induction p generalizing s with
    | pure a => exact ⟨a, s, .pure s a, h⟩
    | call e next ih =>
        obtain ⟨r, s', hexec, hrest⟩ := completes_call_iff.mp h
        obtain ⟨a, t, hp, hf⟩ := ih r hrest
        exact ⟨a, t, .call hexec hp, hf⟩
  · rintro ⟨a, s', hp, hf⟩
    induction hp with
    | pure s a => exact hf
    | call hexec _ ih => exact .call hexec (ih hf)

theorem Completes.mono (himp : ∀ s e r s', X s e r s' → Y s e r s') {s s' : S}
    {p : Program E R α} {a : α} (h : Completes X s p a s') : Completes Y s p a s' := by
  induction h with
  | pure s a => exact .pure s a
  | call hexec _ ih => exact .call (himp _ _ _ _ hexec) ih

/-- As `mono`, from states with a property that every effect keeps. -/
theorem Completes.mono_where {P : S → Prop}
    (himp : ∀ s e r s', P s → X s e r s' → Y s e r s' ∧ P s') {s s' : S} {p : Program E R α}
    {a : α} (hs : P s) (h : Completes X s p a s') : Completes Y s p a s' := by
  induction h with
  | pure s a => exact .pure s a
  | call hexec _ ih =>
      obtain ⟨hexec', hs'⟩ := himp _ _ _ _ hs hexec
      exact .call hexec' (ih hs')

/-! ## Postconditions -/

/-- Whatever `p` returns and leaves when it starts from `s` satisfies `Q`. -/
def Ensures (X : S → (e : E) → R e → S → Prop) (s : S) (p : Program E R α)
    (Q : α → S → Prop) : Prop :=
  ∀ a s', Completes X s p a s' → Q a s'

theorem Ensures.pure {s : S} {a : α} {Q : α → S → Prop} (h : Q a s) :
    Ensures X s (Pure.pure a : Program E R α) Q := by
  intro b s' hcompletes
  obtain ⟨rfl, rfl⟩ := completes_pure_iff.mp hcompletes
  exact h

theorem Ensures.call {s : S} {e : E} {next : R e → Program E R α} {Q : α → S → Prop}
    (h : ∀ r s', X s e r s' → Ensures X s' (next r) Q) : Ensures X s (.call e next) Q := by
  intro a s'' hcompletes
  obtain ⟨r, s', hexec, hrest⟩ := completes_call_iff.mp hcompletes
  exact h r s' hexec a s'' hrest

theorem Ensures.bind {s : S} {p : Program E R α} {f : α → Program E R β} {P : α → S → Prop}
    {Q : β → S → Prop} (hp : Ensures X s p P) (hf : ∀ a s', P a s' → Ensures X s' (f a) Q) :
    Ensures X s (p >>= f) Q := by
  intro b s'' hcompletes
  obtain ⟨a, s', hfirst, hrest⟩ := completes_bind_iff.mp hcompletes
  exact hf a s' (hp a s' hfirst) b s'' hrest

theorem Ensures.mono {s : S} {p : Program E R α} {P Q : α → S → Prop} (h : Ensures X s p P)
    (himp : ∀ a s', P a s' → Q a s') : Ensures X s p Q :=
  fun a s' hcompletes ↦ himp a s' (h a s' hcompletes)

/-! ## The first effect -/

/-- The first effect is one of `X`, the others are of `Y`. -/
def CompletesFrom (X Y : S → (e : E) → R e → S → Prop) (s : S) (p : Program E R α) (a : α)
    (s' : S) : Prop :=
  ∃ e next r t, p = .call e next ∧ X s e r t ∧ Completes Y t (next r) a s'

theorem CompletesFrom.completes {s : S} (himp : ∀ e r t, X s e r t → Y s e r t) {s' : S}
    {p : Program E R α} {a : α} (h : CompletesFrom X Y s p a s') : Completes Y s p a s' := by
  obtain ⟨e, next, r, t, rfl, hexec, hrest⟩ := h
  exact .call (himp e r t hexec) hrest

/-! ## Execution -/

/-- Runs a program on the answers of a function. -/
def evaluate (answer : S → (e : E) → Option (R e × S)) : Program E R α → S → Option (α × S)
  | .pure a, s => some (a, s)
  | .call e next, s =>
      match answer s e with
      | some (r, s') => (next r).evaluate answer s'
      | none => none

theorem evaluate_call {answer : S → (e : E) → Option (R e × S)} {s s' : S} {e : E} {r : R e}
    {next : R e → Program E R α} (h : answer s e = some (r, s')) :
    (Program.call e next).evaluate answer s = (next r).evaluate answer s' := by
  simp only [evaluate, h]

theorem evaluate_bind {answer : S → (e : E) → Option (R e × S)} {s s' : S} {p : Program E R α}
    {f : α → Program E R β} {a : α} (h : p.evaluate answer s = some (a, s')) :
    (p >>= f).evaluate answer s = (f a).evaluate answer s' := by
  induction p generalizing s with
  | pure b =>
      obtain ⟨rfl, rfl⟩ := Prod.mk.inj (Option.some.inj h)
      rfl
  | call e next ih =>
      cases hanswer : answer s e with
      | none =>
          simp only [evaluate, hanswer] at h
          cases h
      | some reply =>
          rw [evaluate_call hanswer] at h
          rw [call_bind, evaluate_call hanswer]
          exact ih _ h

theorem completes_of_evaluate {answer : S → (e : E) → Option (R e × S)}
    (hanswer : ∀ s e r s', answer s e = some (r, s') → X s e r s') {s s' : S}
    {p : Program E R α} {a : α} (h : p.evaluate answer s = some (a, s')) :
    Completes X s p a s' := by
  induction p generalizing s with
  | pure b =>
      obtain ⟨rfl, rfl⟩ := Prod.mk.inj (Option.some.inj h)
      exact .pure s b
  | call e next ih =>
      unfold evaluate at h
      split at h
      · rename_i r t heq
        exact .call (hanswer s e r t heq) (ih r h)
      · cases h

end RemoteInfra.Library.Program

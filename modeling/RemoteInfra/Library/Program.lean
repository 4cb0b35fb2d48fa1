import Mathlib.Order.Basic

/-!
# Programs of atomic effects

A program asks for one effect at a time and goes on with the reply.  Between two of its
effects other programs may run, so what a program may rely on is only what those others
leave true.  An `Outline` fixes, for some record of knowledge, how others may change it,
which effects the program may ask for, and what its own effect does to it.
-/

namespace RemoteInfra.Library

inductive Program (E : Type) (R : E → Type) (α : Type) : Type
  | pure (a : α)
  | call (e : E) (next : R e → Program E R α)

namespace Program

variable {E : Type} {R : E → Type} {α β : Type}

def bind : Program E R α → (α → Program E R β) → Program E R β
  | .pure a, f => f a
  | .call e next, f => .call e fun r ↦ (next r).bind f

instance : Monad (Program E R) where
  pure := .pure
  bind := .bind

/-- Ask for one effect and return its reply. -/
def perform (e : E) : Program E R (R e) := .call e .pure

@[simp] theorem pure_bind_eq (a : α) (f : α → Program E R β) :
    (Pure.pure a : Program E R α) >>= f = f a := rfl

@[simp] theorem perform_bind (e : E) (f : R e → Program E R β) :
    (perform e : Program E R (R e)) >>= f = .call e f := rfl

@[simp] theorem call_bind (e : E) (next : R e → Program E R α) (f : α → Program E R β) :
    Program.call e next >>= f = .call e fun r ↦ next r >>= f := rfl

end Program

/-- The terms on which a program runs among others. -/
structure Outline (K E : Type) (R : E → Type) where
  /-- how the others may change what is known -/
  rely : K → K → Prop
  /-- which effects the program may ask for -/
  allowed : K → E → Prop
  /-- what is known after the program's own effect -/
  after : K → (e : E) → R e → K → Prop
  rely_refl : ∀ k, rely k k
  rely_trans : ∀ {k₁ k₂ k₃}, rely k₁ k₂ → rely k₂ k₃ → rely k₁ k₃

/-- The outline that only limits the effects, whatever is known. -/
def Outline.limitedTo {E : Type} (R : E → Type) (allowed : E → Prop) : Outline Unit E R where
  rely _ _ := True
  allowed _ := allowed
  after _ _ _ _ := True
  rely_refl _ := trivial
  rely_trans _ _ := trivial

/-- The outline that limits the effects and trusts every reply to be as `told`. -/
def Outline.trusting {E : Type} {R : E → Type} (allowed : E → Prop)
    (told : (e : E) → R e → Prop) : Outline Unit E R where
  rely _ _ := True
  allowed _ := allowed
  after _ e r _ := told e r
  rely_refl _ := trivial
  rely_trans _ _ := trivial

namespace Program

variable {K E : Type} {R : E → Type} {α β : Type} {O : Outline K E R}

/-- From knowledge `k` the program asks only for allowed effects and returns only results
that satisfy `Q`, whatever the others do in between. -/
def Meets (O : Outline K E R) (Q : K → α → Prop) : Program E R α → K → Prop
  | .pure a, k => ∀ k', O.rely k k' → Q k' a
  | .call e next, k => ∀ k', O.rely k k' → O.allowed k' e ∧
      ∀ r k'', O.after k' e r k'' → (next r).Meets O Q k''

theorem Meets.rely {Q : K → α → Prop} {p : Program E R α} {k k' : K}
    (h : p.Meets O Q k) (hk : O.rely k k') : p.Meets O Q k' := by
  cases p with
  | pure a => exact fun k'' hk'' ↦ h k'' (O.rely_trans hk hk'')
  | call e next => exact fun k'' hk'' ↦ h k'' (O.rely_trans hk hk'')

theorem Meets.pure {Q : K → α → Prop} {a : α} {k : K} (h : ∀ k', O.rely k k' → Q k' a) :
    (Pure.pure a : Program E R α).Meets O Q k := h

theorem Meets.call {Q : K → α → Prop} {e : E} {next : R e → Program E R α} {k : K}
    (hallowed : ∀ k', O.rely k k' → O.allowed k' e)
    (hnext : ∀ k', O.rely k k' → ∀ r k'', O.after k' e r k'' → (next r).Meets O Q k'') :
    (Program.call e next).Meets O Q k :=
  fun k' hk ↦ ⟨hallowed k' hk, hnext k' hk⟩

theorem Meets.result {Q : K → α → Prop} {a : α} {k : K}
    (h : (Program.pure a : Program E R α).Meets O Q k) : Q k a :=
  h k (O.rely_refl k)

theorem Meets.allowed {Q : K → α → Prop} {e : E} {next : R e → Program E R α} {k : K}
    (h : (Program.call e next).Meets O Q k) : O.allowed k e :=
  (h k (O.rely_refl k)).1

theorem Meets.next {Q : K → α → Prop} {e : E} {next : R e → Program E R α} {k k' : K} {r : R e}
    (h : (Program.call e next).Meets O Q k) (hr : O.after k e r k') : (next r).Meets O Q k' :=
  (h k (O.rely_refl k)).2 r k' hr

theorem Meets.mono {Q Q' : K → α → Prop} (himp : ∀ k a, Q k a → Q' k a)
    {p : Program E R α} {k : K} (h : p.Meets O Q k) : p.Meets O Q' k := by
  induction p generalizing k with
  | pure a => exact fun k' hk ↦ himp k' a (h k' hk)
  | call e next ih =>
      intro k' hk
      exact ⟨(h k' hk).1, fun r k'' hr ↦ ih r ((h k' hk).2 r k'' hr)⟩

theorem Meets.bind {Q : K → β → Prop} {p : Program E R α} {f : α → Program E R β} {k : K}
    (h : p.Meets O (fun k' a ↦ (f a).Meets O Q k') k) : (p >>= f).Meets O Q k := by
  induction p generalizing k with
  | pure a => exact h.result
  | call e next ih =>
      intro k' hk
      exact ⟨(h k' hk).1, fun r k'' hr ↦ ih r ((h k' hk).2 r k'' hr)⟩

/-- The program asks only for effects in `allowed`, whatever the replies. -/
abbrev OnlyAsks (allowed : E → Prop) (p : Program E R α) : Prop :=
  p.Meets (Outline.limitedTo R allowed) (fun _ _ ↦ True) ()

section OnlyAsks

variable {allowed : E → Prop}

theorem OnlyAsks.imp {allowed' : E → Prop} (himp : ∀ e, allowed e → allowed' e)
    {p : Program E R α} (h : OnlyAsks allowed p) : OnlyAsks allowed' p := by
  induction p with
  | pure a => exact fun _ _ ↦ trivial
  | call e next ih =>
      refine Meets.call (fun _ _ ↦ himp e h.allowed) fun _ _ r _ _ ↦ ?_
      have hnext : OnlyAsks allowed (next r) := h.next trivial
      exact ih r hnext

theorem OnlyAsks.of_true (p : Program E R α) : OnlyAsks (fun _ ↦ True) p := by
  induction p with
  | pure a => exact fun _ _ ↦ trivial
  | call e next ih => exact Meets.call (fun _ _ ↦ trivial) fun _ _ r _ _ ↦ ih r

theorem OnlyAsks.pure (a : α) : OnlyAsks allowed (Pure.pure a : Program E R α) :=
  fun _ _ ↦ trivial

theorem OnlyAsks.call {e : E} {next : R e → Program E R α} (he : allowed e)
    (hnext : ∀ r, OnlyAsks allowed (next r)) : OnlyAsks allowed (Program.call e next) :=
  Meets.call (fun _ _ ↦ he) fun _ _ r _ _ ↦ hnext r

theorem OnlyAsks.bind {p : Program E R α} {f : α → Program E R β}
    (hp : OnlyAsks allowed p) (hf : ∀ a, OnlyAsks allowed (f a)) :
    OnlyAsks allowed (p >>= f) :=
  Meets.bind (hp.mono fun _ a _ ↦ hf a)

end OnlyAsks

/-- As long as replies are as `told`, the program asks only for effects in `allowed` and
returns only results that satisfy `Q`. -/
abbrev Keeps (allowed : E → Prop) (told : (e : E) → R e → Prop) (Q : α → Prop)
    (p : Program E R α) : Prop :=
  p.Meets (Outline.trusting allowed told) (fun _ ↦ Q) ()

section Keeps

variable {allowed : E → Prop} {told : (e : E) → R e → Prop}

theorem Keeps.pure {Q : α → Prop} {a : α} (h : Q a) :
    Keeps allowed told Q (Pure.pure a : Program E R α) :=
  fun _ _ ↦ h

theorem Keeps.call {Q : α → Prop} {e : E} {next : R e → Program E R α} (he : allowed e)
    (hnext : ∀ r, told e r → Keeps allowed told Q (next r)) :
    Keeps allowed told Q (Program.call e next) :=
  Meets.call (fun _ _ ↦ he) fun _ _ r _ hr ↦ hnext r hr

theorem Keeps.bind {P : α → Prop} {Q : β → Prop} {p : Program E R α} {f : α → Program E R β}
    (hp : Keeps allowed told P p) (hf : ∀ a, P a → Keeps allowed told Q (f a)) :
    Keeps allowed told Q (p >>= f) :=
  Meets.bind (hp.mono fun _ a ha ↦ hf a ha)

theorem OnlyAsks.keeps {p : Program E R α} (h : OnlyAsks allowed p) :
    Keeps allowed told (fun _ ↦ True) p := by
  induction p with
  | pure a => exact Keeps.pure trivial
  | call e next ih =>
      refine Keeps.call h.allowed fun r _ ↦ ?_
      have hnext : OnlyAsks allowed (next r) := h.next trivial
      exact ih r hnext

end Keeps

end Program

end RemoteInfra.Library

import RemoteInfra.Gateway.VideoRecords

/-!
# The expiry in a saved record

Calls of the video store, one at a time, on any vehicles and with failures, within 24 hours.
`save` fills in an expiry only where there is none, and the record that `Get` makes up has one:
the present.  What a record is first saved with, it keeps.
-/

namespace RemoteInfra.Gateway

open RemoteInfra.Library RemoteInfra.Library.Program

/-- All clocks agree, and time does not pass beyond `limit`. -/
def Timing.agreeing (limit : ℤ) : Timing where
  passes c t := c ≤ t ∧ t < limit
  reads t now := now = t
  forward := @within_forward limit
  trans := @within_trans limit

structure VideoSave where
  record : VideoSession
  savedAtMS : ℤ

/-- What is remembered of a call, for the statements. -/
structure CallTrace where
  /-- a video key was empty, and the clock has not been read since -/
  missed : Bool
  /-- the reading of the clock for the record that `Get` made up -/
  madeAt : Option ℤ
  saves : List VideoSave

namespace CallTrace

def start : CallTrace := ⟨false, none, []⟩

/-- One effect, with its fate and its reply, at `t`. -/
def after (trace : CallTrace) (fate : Fate) (t : ℤ) : (e : Effect) → e.Reply → CallTrace
  | .timeNow, now =>
      if trace.missed then { trace with missed := false, madeAt := some now } else trace
  | .redis (.get (.videoSession _)), .ok none => { trace with missed := true }
  | .redis (.set (.videoSession _) record _), _ =>
      if fate = .refused then trace
      else { trace with saves := trace.saves ++ [⟨record, t⟩] }
  | _, _ => trace

end CallTrace

abbrev TracedState := GatewayState × CallTrace

/-- An effect that may fail, and what is remembered of it. -/
def Noted [Cjson] (T : Timing) (q : TracedState) (e : Effect) (r : e.Reply) (q' : TracedState) :
    Prop :=
  ∃ fate, Faces T q.1 fate e r q'.1 ∧ q'.2 = q.2.after fate q'.1.clock e r

structure SavingState where
  gateway : GatewayState
  /-- the clock when all of this began -/
  opened : ℤ
  saves : List VideoSave

inductive SavingLabel
  | call (c : VideoCall) (trace : CallTrace)
  | tick (t : ℤ)

namespace SavingState

/-- The end of the first 24 hours. -/
def limit (st : SavingState) : ℤ := st.opened + videoSessionTTL

inductive Step [Cjson] (s : VideoSessionStore) : SavingState → SavingLabel → SavingState → Prop
  | call {st : SavingState} {c : VideoCall} {result : Except VideoSessionError VideoSession}
      {w : GatewayState} {trace : CallTrace} :
      Completes (Noted (Timing.agreeing st.limit)) (st.gateway, .start) (c.program s) result
        (w, trace) →
      Step s st (.call c trace) { st with gateway := w, saves := st.saves ++ trace.saves }
  | tick {st : SavingState} {t : ℤ} : st.gateway.clock ≤ t → t < st.limit →
      Step s st (.tick t) { st with gateway := { st.gateway with clock := t } }

/-- Whatever is saved for the vehicle is not expired then. -/
def Unexpired (st : SavingState) (vehicleID : GoString) : Prop :=
  ∀ save ∈ st.saves, save.record.vehicleID = vehicleID.throughJSON →
    save.savedAtMS < save.record.expiresAtMS

end SavingState

/-- Nothing is stored yet. -/
def savingSystem [Cjson] (s : VideoSessionStore) : TransitionSystem SavingState SavingLabel where
  Init st := st.gateway.redis = Store.empty ∧ st.opened = st.gateway.clock ∧ st.saves = []
  Step := SavingState.Step s

/-- Asked of every step: a call that makes up a record and saves it for the vehicle reads the
clock as 0 when it makes it up. -/
def MadeAtZero (vehicleID : GoString) : TransitionSystem.StepCondition SavingState SavingLabel
  | _, _, .call _ trace => ∀ save ∈ trace.saves, save.record.vehicleID = vehicleID.throughJSON →
      ∀ now, trace.madeAt = some now → now = 0
  | _, _, .tick _ => True

/-! ## Where an expiry comes from -/

/-- The expiry of a session that is saved at `t` by a call which began in `w₀`. -/
inductive Sourced (opened : ℤ) (w₀ : GatewayState) (madeAt : Option ℤ) (session : VideoSession)
    (t : ℤ) : Prop
  /-- it was in the record that the call found -/
  | kept {v : GoString} {e : Entry VideoSession} : madeAt = none →
      w₀.redis (.videoSession v) = some e →
        session.vehicleID.throughJSON = e.value.vehicleID.throughJSON →
          session.expiresAtMS = e.value.expiresAtMS → Sourced opened w₀ madeAt session t
  /-- `save` filled it in -/
  | stamped : madeAt = some 0 → 0 < session.expiresAtMS →
      opened + videoSessionTTL ≤ session.expiresAtMS → Sourced opened w₀ madeAt session t
  /-- it is when the record was made up -/
  | made : madeAt = some session.expiresAtMS → session.expiresAtMS ≠ 0 →
      session.expiresAtMS ≤ t → Sourced opened w₀ madeAt session t

/-- As `Sourced`, or there is none yet. -/
def Carried (opened : ℤ) (w₀ : GatewayState) (q : TracedState) (session : VideoSession) : Prop :=
  Sourced opened w₀ q.2.madeAt session q.1.clock ∨
    q.2.madeAt = some 0 ∧ 0 ≤ q.1.clock ∧ session.expiresAtMS = 0

/-- A call that began in `w₀` and has come to `q`. -/
structure Traced (opened : ℤ) (w₀ : GatewayState) (q : TracedState) : Prop where
  started : opened ≤ w₀.clock
  forward : w₀.clock ≤ q.1.clock
  within : q.1.clock < opened + videoSessionTTL
  missed : q.2.missed = false
  stored : ∀ v e, q.1.redis (.videoSession v) = some e →
    w₀.redis (.videoSession v) = some e ∨ ∃ save ∈ q.2.saves, save.record = e.value
  saves : ∀ save ∈ q.2.saves, w₀.clock ≤ save.savedAtMS ∧ save.savedAtMS ≤ q.1.clock ∧
    save.record.vehicleID.throughJSON = save.record.vehicleID ∧
      Sourced opened w₀ q.2.madeAt save.record save.savedAtMS

section Effects

variable [Cjson] {T : Timing} {w w' : GatewayState} {fate : Fate} {e : Effect} {r : e.Reply}

theorem Faces.passes (h : Faces T w fate e r w') : T.passes w.clock w'.clock := by
  cases h with
  | done hserves => exact hserves.passes
  | refused hpasses => exact hpasses
  | lost hpasses _ => exact hpasses

/-- Only a `SET` puts a record under a video key. -/
theorem Faces.stores (h : Faces T w fate e r w') {v : GoString} {stored : Entry VideoSession}
    (hstored : w'.redis (.videoSession v) = some stored) :
    w.redis (.videoSession v) = some stored ∨
      fate ≠ .refused ∧ ∃ px, e = .redis (.set (.videoSession v) stored.value px) := by
  have hran : ∀ {t : ℤ} {cmd : RedisCommand} {result : cmd.Result} {redis : Redis},
      cmd.exec t w.redis = .ok (result, redis) → redis (.videoSession v) = some stored →
        w.redis (.videoSession v) = some stored ∨
          ∃ px, cmd = .set (.videoSession v) stored.value px := fun hexec hafter ↦
    RedisCommand.exec_stores hexec (by simp) (by simp) hafter
  cases h with
  | done hserves =>
      cases hserves with
      | redis _ hexec =>
          rcases hran hexec hstored with hold | ⟨px, rfl⟩
          · exact .inl hold
          · exact .inr ⟨by decide, px, rfl⟩
      | timeNow | newUUID | issueOperatorToken | recordAudit => exact .inl hstored
  | refused => exact .inl hstored
  | lost _ hexec =>
      rcases hran hexec hstored with hold | ⟨px, rfl⟩
      · exact .inl hold
      · exact .inr ⟨by decide, px, rfl⟩

/-- An effect that neither reads nor writes a video key. -/
def Effect.OffRecord : Effect → Prop
  | .redis (.get (.videoSession _)) | .redis (.set (.videoSession _) _ _) => False
  | _ => True

omit [Cjson] in
theorem CallTrace.after_offRecord {trace : CallTrace} (hmissed : trace.missed = false)
    (he : e.OffRecord) (fate : Fate) (t : ℤ) (r : e.Reply) : trace.after fate t e r = trace := by
  cases e with
  | timeNow => exact if_neg (by simp [hmissed])
  | newUUID | issueOperatorToken | recordAudit => rfl
  | redis cmd =>
      cases cmd with
      | get k =>
          cases k with
          | videoSession v => exact he.elim
          | controlLease | controlSessionIndex | videoViewer => rfl
      | set k value px =>
          cases k with
          | videoSession v => exact he.elim
          | controlLease | controlSessionIndex | videoViewer => rfl
      | del | acquireScript | renewScript | releaseScript => rfl

end Effects

/-! ## What a call does to the records -/

section Calls

variable {opened : ℤ} {w₀ : GatewayState} {q q' : TracedState} {session : VideoSession}

/-- Nothing has been made up in between, and time has not gone back. -/
structure Later (q q' : TracedState) : Prop where
  madeAt : q'.2.madeAt = q.2.madeAt
  forward : q.1.clock ≤ q'.1.clock

theorem Later.trans {q'' : TracedState} (h : Later q q') (h' : Later q' q'') : Later q q'' :=
  ⟨h'.madeAt.trans h.madeAt, h.forward.trans h'.forward⟩

theorem Sourced.later {madeAt : Option ℤ} {t u : ℤ} (h : Sourced opened w₀ madeAt session t)
    (hle : t ≤ u) : Sourced opened w₀ madeAt session u := by
  cases h with
  | kept hnone hstored hvehicle hexpires => exact .kept hnone hstored hvehicle hexpires
  | stamped hzero hpositive hlate => exact .stamped hzero hpositive hlate
  | made hmade hne ht => exact .made hmade hne (ht.trans hle)

/-- Only the vehicle and the expiry of a session matter. -/
theorem Sourced.congr {madeAt : Option ℤ} {t : ℤ} {other : VideoSession}
    (h : Sourced opened w₀ madeAt session t)
    (hvehicle : other.vehicleID.throughJSON = session.vehicleID.throughJSON)
    (hexpires : other.expiresAtMS = session.expiresAtMS) :
    Sourced opened w₀ madeAt other t := by
  cases h with
  | kept hnone hstored hsame hkept =>
      exact .kept hnone hstored (hvehicle.trans hsame) (hexpires.trans hkept)
  | stamped hzero hpositive hlate =>
      rw [← hexpires] at hpositive hlate
      exact .stamped hzero hpositive hlate
  | made hmade hne ht =>
      rw [← hexpires] at hmade hne ht
      exact .made hmade hne ht

theorem Carried.later (h : Carried opened w₀ q session) (hlater : Later q q') :
    Carried opened w₀ q' session := by
  unfold Carried
  rw [hlater.madeAt]
  rcases h with hsourced | ⟨hzero, hclock, hnone⟩
  · exact .inl (hsourced.later hlater.forward)
  · exact .inr ⟨hzero, hclock.trans hlater.forward, hnone⟩

theorem Carried.congr {other : VideoSession} (h : Carried opened w₀ q session)
    (hvehicle : other.vehicleID = session.vehicleID)
    (hexpires : other.expiresAtMS = session.expiresAtMS) : Carried opened w₀ q other := by
  rcases h with hsourced | ⟨hzero, hclock, hnone⟩
  · exact .inl (hsourced.congr (by rw [hvehicle]) hexpires)
  · exact .inr ⟨hzero, hclock, hexpires.trans hnone⟩

variable [Cjson]

/-- The clock in a call that must end before the 24 hours do. -/
abbrev Notes (opened : ℤ) : TracedState → (e : Effect) → e.Reply → TracedState → Prop :=
  Noted (Timing.agreeing (opened + videoSessionTTL))

theorem Traced.offRecord (h : Traced opened w₀ q) {e : Effect} {r : e.Reply}
    (hnoted : Notes opened q e r q') (he : e.OffRecord) :
    Traced opened w₀ q' ∧ q'.2 = q.2 ∧ Later q q' := by
  obtain ⟨fate, hfaces, htrace⟩ := hnoted
  rw [CallTrace.after_offRecord h.missed he] at htrace
  obtain ⟨hforward, hwithin⟩ := hfaces.passes
  refine ⟨⟨h.started, h.forward.trans hforward, hwithin, by rw [htrace, h.missed], ?_, ?_⟩,
    htrace, by rw [htrace], hforward⟩
  · intro v stored hstored
    rw [htrace]
    rcases hfaces.stores hstored with hold | ⟨-, px, rfl⟩
    · exact h.stored v stored hold
    · exact he.elim
  · intro save hmem
    rw [htrace] at hmem ⊢
    obtain ⟨hbegan, hpast, hsave⟩ := h.saves save hmem
    exact ⟨hbegan, hpast.trans hforward, hsave⟩

theorem Traced.offRecord_bind (h : Traced opened w₀ q) {α : Type} {e : Effect} (he : e.OffRecord)
    {f : e.Reply → GatewayProgram α} {Q : α → TracedState → Prop}
    (hf : ∀ r q', Traced opened w₀ q' → q'.2 = q.2 → Later q q' →
      Ensures (Notes opened) q' (f r) Q) :
    Ensures (Notes opened) q (.call e f) Q := by
  refine Ensures.call fun r q' hnoted ↦ ?_
  obtain ⟨htraced, hsame, hlater⟩ := h.offRecord hnoted he
  exact hf r q' htraced hsame hlater

/-- A reading of the clock. -/
theorem Traced.timeNow_bind (h : Traced opened w₀ q) {α : Type} {f : ℤ → GatewayProgram α}
    {Q : α → TracedState → Prop}
    (hf : ∀ q', Traced opened w₀ q' → Later q q' → Ensures (Notes opened) q' (f q'.1.clock) Q) :
    Ensures (Notes opened) q (.call .timeNow f) Q := by
  refine Ensures.call fun now q' hnoted ↦ ?_
  obtain ⟨htraced, -, hlater⟩ := h.offRecord hnoted trivial
  obtain ⟨fate, hfaces, -⟩ := hnoted
  cases hfaces with
  | done hserves =>
      obtain ⟨t, -, hreads, hclock⟩ := serves_timeNow_iff.mp hserves
      obtain rfl : now = q'.1.clock := by
        rw [hclock]
        exact hreads
      exact hf q' htraced hlater

namespace VideoSessionStore

/-- A session with an expiry of known origin. -/
theorem traces_stamped (h : Traced opened w₀ q) (hcarried : Carried opened w₀ q session)
    (hnonzero : ∀ v e, w₀.redis (.videoSession v) = some e → e.value.expiresAtMS ≠ 0) :
    Ensures (Notes opened) q (stamped session) fun stamped q' ↦
      Traced opened w₀ q' ∧ Later q q' ∧ stamped.vehicleID = session.vehicleID ∧
        Sourced opened w₀ q'.2.madeAt stamped q'.1.clock := by
  unfold stamped
  split_ifs with hzero
  · refine h.timeNow_bind fun q' htraced hlater ↦ Ensures.pure ⟨htraced, hlater, rfl, ?_⟩
    have hlate : opened ≤ q'.1.clock := htraced.started.trans htraced.forward
    rw [hlater.madeAt]
    rcases hcarried with hsourced | ⟨hmade, hclock, -⟩
    · cases hsourced with
      | kept _ hstored _ hexpires => exact absurd (hexpires.symm.trans hzero) (hnonzero _ _ hstored)
      | stamped _ hpositive _ => exact absurd hzero hpositive.ne'
      | made _ hne _ => exact absurd hzero hne
    · have hforward := hclock.trans hlater.forward
      have hday : 0 < videoSessionTTL := by decide
      exact .stamped hmade (by dsimp only; omega) (by dsimp only; omega)
  · refine Ensures.pure ⟨h, ⟨rfl, le_rfl⟩, rfl, ?_⟩
    rcases hcarried with hsourced | ⟨-, -, hnone⟩
    · exact hsourced
    · exact absurd hnone hzero

theorem traces_save (h : Traced opened w₀ q) (hcarried : Carried opened w₀ q session)
    (hnonzero : ∀ v e, w₀.redis (.videoSession v) = some e → e.value.expiresAtMS ≠ 0) :
    Ensures (Notes opened) q (save session) fun _ q' ↦ Traced opened w₀ q' ∧ Later q q' := by
  refine (traces_stamped h hcarried hnonzero).bind ?_
  rintro session q₁ ⟨h, hstamped, -, hsourced⟩
  refine Ensures.call fun reply q' hnoted ↦ ?_
  obtain ⟨fate, hfaces, htrace⟩ := hnoted
  obtain ⟨hforward, hwithin⟩ := hfaces.passes
  have hmade : q'.2.madeAt = q₁.2.madeAt := by
    rw [htrace]
    simp only [CallTrace.after]
    split_ifs <;> rfl
  have hlater : Later q q' := hstamped.trans ⟨hmade, hforward⟩
  have hsaved : ∀ save ∈ q'.2.saves,
      save ∈ q₁.2.saves ∨ save = ⟨session.marshal, q'.1.clock⟩ := by
    intro save hmem
    rw [htrace] at hmem
    simp only [CallTrace.after] at hmem
    split_ifs at hmem
    · exact .inl hmem
    · simpa using hmem
  have htraced : Traced opened w₀ q' := by
    refine ⟨h.started, h.forward.trans hforward, hwithin, ?_, fun v stored hstored ↦ ?_,
      fun save hmem ↦ ?_⟩
    · rw [htrace]
      simp only [CallTrace.after]
      split_ifs <;> exact h.missed
    · rcases hfaces.stores hstored with hold | ⟨hran, px, heq⟩
      · refine (h.stored v stored hold).imp_right ?_
        rintro ⟨save, hmem, hrecord⟩
        refine ⟨save, ?_, hrecord⟩
        rw [htrace]
        simp only [CallTrace.after]
        split_ifs
        · exact hmem
        · exact List.mem_append_left _ hmem
      · refine .inr ⟨⟨session.marshal, q'.1.clock⟩, ?_, ?_⟩
        · rw [htrace]
          simp only [CallTrace.after, if_neg hran]
          exact List.mem_append_right _ (List.mem_singleton_self _)
        · obtain ⟨value, deadline⟩ := stored
          cases heq
          rfl
    · rw [hmade]
      rcases hsaved save hmem with hold | rfl
      · obtain ⟨hbegan, hpast, hkept, hsource⟩ := h.saves save hold
        exact ⟨hbegan, hpast.trans hforward, hkept, hsource⟩
      · have hkept := congrArg VideoSession.vehicleID session.marshal_marshal
        exact ⟨h.forward.trans hforward, le_rfl, hkept,
          (hsourced.later hforward).congr hkept rfl⟩
  rcases reply with error | _ <;> exact Ensures.pure ⟨htraced, hlater⟩

theorem traces_andSave (h : Traced opened w₀ q) (hcarried : Carried opened w₀ q session)
    (hnonzero : ∀ v e, w₀.redis (.videoSession v) = some e → e.value.expiresAtMS ≠ 0) :
    Ensures (Notes opened) q (andSave session) fun result q' ↦ Traced opened w₀ q' ∧
      Later q q' ∧ ∀ returned, result = .ok returned → returned = session := by
  refine (traces_save h hcarried hnonzero).bind ?_
  rintro reply q' ⟨htraced, hlater⟩
  rcases reply with error | _
  · exact Ensures.pure ⟨htraced, hlater, by rintro returned ⟨⟩⟩
  · exact Ensures.pure ⟨htraced, hlater, by rintro returned ⟨⟩; rfl⟩

/-- A look at the record, by a call that has not made one up. -/
theorem traces_get (h : Traced opened w₀ q) (hmade : q.2.madeAt = none) (hsaves : q.2.saves = [])
    (hnonzero : ∀ v e, w₀.redis (.videoSession v) = some e → e.value.expiresAtMS ≠ 0)
    (vehicleID : GoString) :
    Ensures (Notes opened) q (get vehicleID) fun result q' ↦ Traced opened w₀ q' ∧
      ∀ session, result = .ok session → Carried opened w₀ q' session := by
  refine Ensures.call fun reply q₁ hnoted ↦ ?_
  obtain ⟨fate, hfaces, htrace⟩ := hnoted
  obtain ⟨hforward, hwithin⟩ := hfaces.passes
  have hfound : ∀ v stored, q₁.1.redis (.videoSession v) = some stored →
      w₀.redis (.videoSession v) = some stored := by
    intro v stored hstored
    rcases hfaces.stores hstored with hold | ⟨-, px, heq⟩
    · rcases h.stored v stored hold with hbefore | ⟨save, hmem, -⟩
      · exact hbefore
      · simp [hsaves] at hmem
    · cases heq
  have hstart : ∀ {trace : CallTrace}, trace.saves = [] → trace.missed = false →
      Traced opened w₀ (q₁.1, trace) := by
    intro trace hnone hmissed
    refine ⟨h.started, h.forward.trans hforward, hwithin, hmissed,
      fun v stored hstored ↦ .inl (hfound v stored hstored), fun save hmem ↦ ?_⟩
    simp [hnone] at hmem
  rcases reply with error | found
  · have htraced : Traced opened w₀ q₁ := hstart (by rw [htrace]; exact hsaves)
      (by rw [htrace]; exact h.missed)
    exact Ensures.pure ⟨htraced, by rintro session ⟨⟩⟩
  rcases found with _ | session
  · -- the record is made up, and the reading of the clock remembered
    refine Ensures.call fun now q₂ hnow ↦ ?_
    obtain ⟨_, hread, htrace'⟩ := hnow
    cases hread with
    | done hserves =>
        obtain ⟨t, ⟨hforward', hwithin'⟩, hreads, hclock⟩ := serves_timeNow_iff.mp hserves
        obtain rfl : now = t := hreads
        have hmadeAt : q₂.2.madeAt = some now := by
          rw [htrace', htrace]
          rfl
        have htraced : Traced opened w₀ q₂ := by
          refine ⟨h.started, ?_, ?_, ?_, fun v stored hstored ↦ .inl (hfound v stored ?_),
            fun save hmem ↦ ?_⟩
          · rw [hclock]
            exact (h.forward.trans hforward).trans hforward'
          · rw [hclock]
            exact hwithin'
          · rw [htrace', htrace]
            rfl
          · rwa [hclock] at hstored
          · rw [htrace', htrace] at hmem
            simp [CallTrace.after, hsaves] at hmem
        refine Ensures.pure ⟨htraced, ?_⟩
        rintro session ⟨⟩
        by_cases hzero : now = 0
        · subst hzero
          refine .inr ⟨hmadeAt, ?_, rfl⟩
          rw [hclock]
        · refine .inl (.made hmadeAt hzero ?_)
          rw [hclock]
          exact le_rfl
  · have hnone : q₁.2.madeAt = none := by
      rw [htrace]
      exact hmade
    have htraced : Traced opened w₀ q₁ := hstart (by rw [htrace]; exact hsaves)
      (by rw [htrace]; exact h.missed)
    have hcarried : Carried opened w₀ q₁ session := by
      cases hfaces with
      | done hserves =>
          obtain ⟨t, -, hget, hclock⟩ := serves_get_iff.mp hserves
          obtain ⟨e, hlive, rfl⟩ := Store.get_eq_some_iff.mp (Except.ok.inj hget).symm
          have hstored : w₀.redis (.videoSession vehicleID) = some e := by
            apply hfound
            rw [hclock]
            exact (Store.live_eq_some_iff.mp hlive).1
          exact .inl (.kept hnone hstored rfl rfl)
    have hsteady : Ensures (Notes opened) q₁
        (Pure.pure (.ok session) : GatewayProgram (Except VideoSessionError VideoSession))
          fun result q' ↦ Traced opened w₀ q' ∧
            ∀ session, result = .ok session → Carried opened w₀ q' session := by
      refine Ensures.pure ⟨htraced, ?_⟩
      rintro session ⟨⟩
      exact hcarried
    simp only [Program.bind]
    split_ifs with hgrace
    · refine htraced.timeNow_bind fun q₂ htraced' hlater ↦ ?_
      simp only [Program.bind]
      split_ifs with hover
      · have hsettled : Carried opened w₀ q₂ session.settled :=
          (hcarried.later hlater).congr rfl rfl
        refine (traces_andSave htraced' hsettled hnonzero).mono ?_
        rintro result q₃ ⟨htraced'', hlater', hreturned⟩
        refine ⟨htraced'', fun returned heq ↦ ?_⟩
        rw [hreturned returned heq]
        exact hsettled.later hlater'
      · refine Ensures.pure ⟨htraced', ?_⟩
        rintro session ⟨⟩
        exact hcarried.later hlater
    · exact hsteady

theorem traces_named (h : Traced opened w₀ q) (hcarried : Carried opened w₀ q session) :
    Ensures (Notes opened) q (named session) fun named q' ↦
      Traced opened w₀ q' ∧ Carried opened w₀ q' named := by
  unfold named
  split_ifs
  · refine h.offRecord_bind (by trivial) fun id q₁ htraced _ hlater ↦ ?_
    refine htraced.timeNow_bind fun q₂ htraced' hlater' ↦ ?_
    exact Ensures.pure ⟨htraced', (hcarried.later (hlater.trans hlater')).congr rfl rfl⟩
  · exact Ensures.pure ⟨h, hcarried⟩

theorem traces_saveAfterViewerChange (s : VideoSessionStore) (h : Traced opened w₀ q)
    (hcarried : Carried opened w₀ q session)
    (hnonzero : ∀ v e, w₀.redis (.videoSession v) = some e → e.value.expiresAtMS ≠ 0) :
    Ensures (Notes opened) q (s.saveAfterViewerChange session) fun _ q' ↦
      Traced opened w₀ q' := by
  unfold saveAfterViewerChange
  split_ifs
  · refine h.timeNow_bind fun q₁ htraced hlater ↦ ?_
    have hcarried' : Carried opened w₀ q₁
        { session with mode := .active, graceDeadlineMS := q₁.1.clock + s.gracePeriod } :=
      (hcarried.later hlater).congr rfl rfl
    refine Ensures.mono (traces_andSave htraced hcarried' hnonzero) ?_
    intro result q' hsaved
    exact hsaved.1
  · refine (traces_andSave h hcarried hnonzero).mono ?_
    intro result q' hsaved
    exact hsaved.1

end VideoSessionStore

/-- What is known of a call that has begun. -/
theorem traces_program (s : VideoSessionStore) (c : VideoCall) (hstarted : opened ≤ w₀.clock)
    (hwithin : w₀.clock < opened + videoSessionTTL)
    (hnonzero : ∀ v e, w₀.redis (.videoSession v) = some e → e.value.expiresAtMS ≠ 0) :
    Ensures (Notes opened) (w₀, .start) (c.program s) fun _ q' ↦ Traced opened w₀ q' := by
  have hstart : Traced opened w₀ (w₀, .start) :=
    ⟨hstarted, le_rfl, hwithin, rfl, fun _ _ hstored ↦ .inl hstored, fun _ hmem ↦ by cases hmem⟩
  have hget : ∀ v, Ensures (Notes opened) (w₀, .start) (VideoSessionStore.get v) _ := fun v ↦
    VideoSessionStore.traces_get hstart rfl rfl hnonzero v
  cases c with
  | get v =>
      refine (hget v).mono ?_
      intro result q' hlooked
      exact hlooked.1
  | acquireViewer v =>
      refine (hget v).bind ?_
      rintro result q₁ ⟨htraced, hcarried⟩
      rcases result with error | session
      · exact Ensures.pure htraced
      refine (VideoSessionStore.traces_named htraced (hcarried session rfl)).bind ?_
      rintro named q₂ ⟨htraced, hnamed⟩
      dsimp only
      have hjoined : Carried opened w₀ q₂
          { named with
            viewerCount := named.viewerCount + 1
            mode := .active
            graceDeadlineMS := 0 } := hnamed.congr rfl rfl
      refine (VideoSessionStore.traces_save htraced hjoined hnonzero).bind ?_
      rintro saved q₃ ⟨htraced, -⟩
      rcases saved with error | _
      · exact Ensures.pure htraced
      refine htraced.offRecord_bind (by trivial) fun reply q₄ htraced' _ _ ↦ ?_
      rcases reply with error | _ <;> exact Ensures.pure htraced'
  | releaseViewer id =>
      refine hstart.offRecord_bind (by trivial) fun reply q₁ htraced hsame _ ↦ ?_
      rcases reply with error | _ | v
      · exact Ensures.pure htraced
      · exact Ensures.pure htraced
      have hlook := VideoSessionStore.traces_get htraced (by rw [hsame]; rfl)
        (by rw [hsame]; rfl) hnonzero v
      refine hlook.bind ?_
      rintro result q₂ ⟨htraced, hcarried⟩
      rcases result with error | session
      · exact Ensures.pure htraced
      refine htraced.offRecord_bind (by trivial) fun deleted q₃ htraced' _ hlater ↦ ?_
      exact VideoSessionStore.traces_saveAfterViewerChange s htraced'
        (((hcarried session rfl).later hlater).congr rfl rfl) hnonzero
  | setController v id =>
      refine (hget v).bind ?_
      rintro result q₁ ⟨htraced, hcarried⟩
      rcases result with error | session
      · exact Ensures.pure htraced
      refine (VideoSessionStore.traces_named htraced (hcarried session rfl)).bind ?_
      rintro named q₂ ⟨htraced, hnamed⟩
      have hcontrolled : Carried opened w₀ q₂
          { named with controllerSessionID := id, mode := .active, graceDeadlineMS := 0 } :=
        hnamed.congr rfl rfl
      refine (VideoSessionStore.traces_andSave htraced hcontrolled hnonzero).mono ?_
      intro result q' hsaved
      exact hsaved.1
  | clearController v id =>
      refine (hget v).bind ?_
      rintro result q₁ ⟨htraced, hcarried⟩
      rcases result with error | session
      · exact Ensures.pure htraced
      exact VideoSessionStore.traces_saveAfterViewerChange s htraced
        ((hcarried session rfl).congr rfl rfl) hnonzero

end Calls

/-! ## Runs -/

/-- Whatever is stored has been saved, and was saved either expired or with an expiry after the
24 hours. -/
structure SavesKept (st : SavingState) : Prop where
  started : st.opened ≤ st.gateway.clock
  within : st.gateway.clock < st.limit
  stored : ∀ v e, st.gateway.redis (.videoSession v) = some e →
    ∃ save ∈ st.saves, save.record = e.value
  nonzero : ∀ save ∈ st.saves, save.record.expiresAtMS ≠ 0
  kept : ∀ save ∈ st.saves, save.record.vehicleID.throughJSON = save.record.vehicleID
  past : ∀ save ∈ st.saves, save.savedAtMS ≤ st.gateway.clock
  settled : ∀ save ∈ st.saves,
    save.record.expiresAtMS ≤ save.savedAtMS ∨ st.limit ≤ save.record.expiresAtMS

section Runs

variable {s : VideoSessionStore} {st st' : SavingState} {l : SavingLabel}

/-- The record a call found is one that was saved before. -/
theorem SavesKept.found (h : SavesKept st) {v : GoString} {e : Entry VideoSession}
    (hstored : st.gateway.redis (.videoSession v) = some e) :
    ∃ save ∈ st.saves, save.record = e.value ∧ save.savedAtMS ≤ st.gateway.clock ∧
      e.value.vehicleID.throughJSON = e.value.vehicleID ∧ e.value.expiresAtMS ≠ 0 ∧
        (e.value.expiresAtMS ≤ save.savedAtMS ∨ st.limit ≤ e.value.expiresAtMS) := by
  obtain ⟨save, hmem, hrecord⟩ := h.stored v e hstored
  rw [← hrecord]
  exact ⟨save, hmem, rfl, h.past save hmem, h.kept save hmem, h.nonzero save hmem,
    h.settled save hmem⟩

variable [Cjson]

theorem SavesKept.traced (h : SavesKept st) {c : VideoCall} {w : GatewayState}
    {trace : CallTrace} {result : Except VideoSessionError VideoSession}
    (hcall : Completes (Noted (Timing.agreeing st.limit)) (st.gateway, .start) (c.program s)
      result (w, trace)) : Traced st.opened st.gateway (w, trace) := by
  refine traces_program s c h.started h.within ?_ result (w, trace) hcall
  intro v e hstored
  obtain ⟨save, hmem, hrecord⟩ := h.stored v e hstored
  rw [← hrecord]
  exact h.nonzero save hmem

theorem SavesKept.step (h : SavesKept st) (hstep : SavingState.Step s st l st') :
    SavesKept st' := by
  cases hstep with
  | tick hle hlt =>
      exact ⟨h.started.trans hle, hlt, h.stored, h.nonzero, h.kept,
        fun save hmem ↦ (h.past save hmem).trans hle, h.settled⟩
  | @call c result w trace hcall =>
      have htraced := h.traced hcall
      have hforward : st.gateway.clock ≤ w.clock := htraced.forward
      refine ⟨h.started.trans hforward, htraced.within, fun v e hstored ↦ ?_,
        fun save hmem ↦ ?_, fun save hmem ↦ ?_, fun save hmem ↦ ?_, fun save hmem ↦ ?_⟩
      · rcases htraced.stored v e hstored with hold | ⟨save, hmem, hrecord⟩
        · obtain ⟨save, hmem, hrecord⟩ := h.stored v e hold
          exact ⟨save, List.mem_append_left _ hmem, hrecord⟩
        · exact ⟨save, List.mem_append_right _ hmem, hrecord⟩
      · rcases List.mem_append.mp hmem with hold | hnew
        · exact h.nonzero save hold
        · obtain ⟨-, -, -, hsourced⟩ := htraced.saves save hnew
          cases hsourced with
          | kept _ hstored _ hexpires =>
              obtain ⟨_, -, -, -, -, hne, -⟩ := h.found hstored
              rwa [hexpires]
          | stamped _ hpositive _ => exact hpositive.ne'
          | made _ hne _ => exact hne
      · rcases List.mem_append.mp hmem with hold | hnew
        · exact h.kept save hold
        · exact (htraced.saves save hnew).2.2.1
      · rcases List.mem_append.mp hmem with hold | hnew
        · exact (h.past save hold).trans hforward
        · exact (htraced.saves save hnew).2.1
      · rcases List.mem_append.mp hmem with hold | hnew
        · exact h.settled save hold
        · obtain ⟨hbegan, -, -, hsourced⟩ := htraced.saves save hnew
          cases hsourced with
          | kept _ hstored _ hexpires =>
              obtain ⟨old, -, -, hpast, -, -, hsettled⟩ := h.found hstored
              rw [hexpires]
              exact hsettled.imp_left fun hle ↦ hle.trans (hpast.trans hbegan)
          | stamped _ _ hlate => exact .inr hlate
          | made _ _ hle => exact .inl hle

theorem SavesKept.of_run {ls : List SavingLabel} (hrun : (savingSystem s).Run ls st) :
    SavesKept st := by
  refine hrun.invariant (P := fun _ st ↦ SavesKept st) ?_ ?_
  · rintro st ⟨hempty, hopened, hnone⟩
    refine ⟨hopened.le, ?_, fun v e hstored ↦ ?_, ?_, ?_, ?_, ?_⟩
    · simp [SavingState.limit, hopened, videoSessionTTL]
    · rw [hempty] at hstored
      cases hstored
    all_goals simp [hnone]
  · intro ls st l st' _ h _ hstep
    exact h.step hstep

/-- What a call saves for the vehicle is unexpired, if everything before was, exactly when the
call made up no record at a time other than 0. -/
theorem SavesKept.unexpired_iff (h : SavesKept st) (vehicleID : GoString)
    (ls : List SavingLabel) (hstep : SavingState.Step s st l st') :
    st'.Unexpired vehicleID ↔ st.Unexpired vehicleID ∧ MadeAtZero vehicleID ls st l := by
  cases hstep with
  | tick _ _ => exact ⟨fun hall ↦ ⟨hall, trivial⟩, fun hall ↦ hall.1⟩
  | @call c result w trace hcall =>
      have htraced := h.traced hcall
      have hwithin : w.clock < st.limit := htraced.within
      constructor
      · intro hall
        refine ⟨fun save hmem ↦ hall save (List.mem_append_left _ hmem), ?_⟩
        intro save hmem hvehicle now hmade
        have hunexpired := hall save (List.mem_append_right _ hmem) hvehicle
        obtain ⟨-, -, -, hsourced⟩ := htraced.saves save hmem
        cases hsourced with
        | kept hnone _ _ _ => cases hnone.symm.trans hmade
        | stamped hzero _ _ => exact Option.some.inj (hmade.symm.trans hzero)
        | made _ _ hle => omega
      · rintro ⟨hall, hcond⟩ save hmem hvehicle
        rcases List.mem_append.mp hmem with hold | hnew
        · exact hall save hold hvehicle
        · obtain ⟨-, hpast, hkept, hsourced⟩ := htraced.saves save hnew
          have hsaved : save.savedAtMS < st.limit := hpast.trans_lt hwithin
          cases hsourced with
          | kept _ hstored hsame hexpires =>
              obtain ⟨old, hmem', hrecord, -, hkept', -, hsettled⟩ := h.found hstored
              have hbefore : old.savedAtMS < old.record.expiresAtMS := by
                apply hall old hmem'
                rw [hrecord, ← hkept', ← hsame, hkept, hvehicle]
              rw [hrecord] at hbefore
              rw [hexpires]
              omega
          | stamped _ _ hlate => exact hsaved.trans_le hlate
          | made hmade hne _ => exact absurd (hcond save hnew hvehicle _ hmade) hne

end Runs

/-- Everything saved for a vehicle is unexpired when it is saved if and only if no call that
made up a record of the vehicle and saved it did so at a time other than 0. -/
theorem saves_unexpired_iff [Cjson] (s : VideoSessionStore) (vehicleID : GoString)
    {ls : List SavingLabel} {st : SavingState} (hrun : (savingSystem s).Run ls st) :
    st.Unexpired vehicleID ↔ (savingSystem s).RunWhere (MadeAtZero vehicleID) ls st := by
  refine TransitionSystem.RunWhere.holds_iff (P := fun st ↦ st.Unexpired vehicleID) ?_ ?_ hrun
  · rintro st ⟨-, -, hnone⟩ save hmem
    simp [hnone] at hmem
  · intro ls st l st' hrun hstep
    exact (SavesKept.of_run hrun).unexpired_iff vehicleID ls hstep

/-! ## A controller is set -/

section Sample

/-- Answers every effect at once, and remembers it. -/
def noteAtOnce [Cjson] (limit : ℤ) (ids : List String) (q : TracedState) (e : Effect) :
    Option (e.Reply × TracedState) :=
  if q.1.clock < limit then
    match serveAtOnce ids q.1 e with
    | some (r, w) => some (r, w, q.2.after .done w.clock e r)
    | none => none
  else none

theorem noted_of_noteAtOnce [Cjson] {limit : ℤ} {ids : List String} {q q' : TracedState}
    {e : Effect} {r : e.Reply} (h : noteAtOnce limit ids q e = some (r, q')) :
    Noted (Timing.agreeing limit) q e r q' := by
  unfold noteAtOnce at h
  split_ifs at h with hwithin
  split at h
  · rename_i reply w hserve
    obtain ⟨rfl, rfl⟩ := Prod.mk.inj (Option.some.inj h)
    have hserves : Serves (Timing.agreeing limit) q.1 e reply w := by
      refine Serves.mono ?_ ?_ (serves_of_serveAtOnce hserve)
      · rintro t rfl
        exact ⟨le_rfl, hwithin⟩
      · intro t now _ hreads
        exact hreads
    exact ⟨.done, .done hserves, rfl⟩
  · cases h

theorem SavingState.run_call [Cjson] {s : VideoSessionStore} {st : SavingState} {c : VideoCall}
    {result : Except VideoSessionError VideoSession} {q : TracedState}
    (hinit : (savingSystem s).Init st) (ids : List String)
    (h : (c.program s).evaluate (noteAtOnce st.limit ids) (st.gateway, .start) =
      some (result, q)) :
    (savingSystem s).Run [.call c q.2]
      { st with gateway := q.1, saves := st.saves ++ q.2.saves } := by
  have hnoted : ∀ q e r q', noteAtOnce st.limit ids q e = some (r, q') →
      Noted (Timing.agreeing st.limit) q e r q' := fun _ _ _ _ heq ↦ noted_of_noteAtOnce heq
  exact .step (.init hinit) trivial (.call (completes_of_evaluate hnoted h))

/-- Nothing has been saved when the clock shows `clock`. -/
def unsaved (clock : ℤ) : SavingState := ⟨⟨clock, Store.empty, []⟩, clock, []⟩

theorem unsaved_init [Cjson] (s : VideoSessionStore) (clock : ℤ) :
    (savingSystem s).Init (unsaved clock) := ⟨rfl, rfl, rfl⟩

/-- The record of a vehicle that gets a controller at `clock`. -/
def controlledSince (clock expiresAtMS : ℤ) : VideoSession where
  vehicleID := watched
  sessionID := GoString.ofString "v-1"
  mode := .active
  viewerCount := 0
  controllerSessionID := GoString.ofString "c-1"
  graceDeadlineMS := 0
  createdAtMS := clock
  expiresAtMS := expiresAtMS

/-- When the clock shows 0, the record is saved with an expiry. -/
theorem saves_unexpired_epoch :
    let := Cjson.fourteenDigits
    ∃ ls st, st.saves = [⟨controlledSince 0 videoSessionTTL, 0⟩] ∧ st.Unexpired watched ∧
      (savingSystem ⟨45000⟩).RunWhere (MadeAtZero watched) ls st := by
  let := Cjson.fourteenDigits
  obtain ⟨result, q, heq, hsaves⟩ : ∃ result q,
      ((VideoCall.setController watched (GoString.ofString "c-1")).program ⟨45000⟩).evaluate
        (noteAtOnce (unsaved 0).limit ["v-1"]) ((unsaved 0).gateway, .start) = some (result, q) ∧
        q.2.saves = [⟨controlledSince 0 videoSessionTTL, 0⟩] := ⟨_, _, rfl, rfl⟩
  have hrun := SavingState.run_call (unsaved_init ⟨45000⟩ 0) ["v-1"] heq
  have hunexpired : SavingState.Unexpired
      { unsaved 0 with gateway := q.1, saves := (unsaved 0).saves ++ q.2.saves } watched := by
    intro save hmem _
    rw [hsaves] at hmem
    obtain rfl := List.mem_singleton.mp hmem
    decide
  exact ⟨_, _, hsaves, hunexpired, (saves_unexpired_iff ⟨45000⟩ watched hrun).mp hunexpired⟩

/-- On any other day, it is saved as expiring at that very moment. -/
theorem controller_saved_expired :
    let := Cjson.fourteenDigits
    ∃ ls st save, (savingSystem ⟨45000⟩).Run ls st ∧ save ∈ st.saves ∧
      save.record.vehicleID = watched ∧ save.savedAtMS = 1700000000000 ∧
        save.record.expiresAtMS = 1700000000000 ∧
          ¬save.savedAtMS < save.record.expiresAtMS := by
  let := Cjson.fourteenDigits
  obtain ⟨result, q, heq, hsaves⟩ : ∃ result q,
      ((VideoCall.setController watched (GoString.ofString "c-1")).program ⟨45000⟩).evaluate
        (noteAtOnce (unsaved 1700000000000).limit ["v-1"])
          ((unsaved 1700000000000).gateway, .start) = some (result, q) ∧
        q.2.saves = [⟨controlledSince 1700000000000 1700000000000, 1700000000000⟩] :=
    ⟨_, _, rfl, rfl⟩
  have hrun := SavingState.run_call (unsaved_init ⟨45000⟩ 1700000000000) ["v-1"] heq
  refine ⟨_, _, ⟨controlledSince 1700000000000 1700000000000, 1700000000000⟩, hrun, ?_, rfl,
    rfl, rfl, by decide⟩
  exact List.mem_append_right _ (hsaves ▸ List.mem_singleton_self _)

end Sample

end RemoteInfra.Gateway

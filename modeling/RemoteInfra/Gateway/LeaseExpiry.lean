import RemoteInfra.Gateway.HandlerLeases
import RemoteInfra.Gateway.LeaseIndex

/-!
# A lease lasts as long as its record says

When the handlers read the clock that Redis expires keys by, no record of a lease names an
expiry later than the deadline of its key.  Renewals only move deadlines on, so whoever read
a record may count on the lease until the expiry it names, unless the session is released.
-/

namespace RemoteInfra.Gateway

open RemoteInfra.Library

/-- Asked of every step: `time.Now()` reads the clock. -/
def ReadsClock : TransitionSystem.StepCondition (GatewayPool GatewayCall HTTPResponse)
    (GatewayLabel GatewayCall)
  | _, st, .exec _ _ .timeNow t => t = st.shared.clock
  | _, _, _ => True

/-- Until the expiry in its record `s`, the lease of `v` is held by the session of `s`, unless
that is released. -/
structure Covered (g : GatewayConfig) (ls : List (GatewayLabel GatewayCall)) (w : GatewayState)
    (v : GoString) (s : ControlSession) : Prop where
  notFar : s.expiresAtMS ≤ w.clock + g.controlLeases.ttl
  held : Released ls s.sessionID ∨ s.expiresAtMS < w.clock ∨
    ∃ e, w.redis.live w.clock (.controlLease v) = some e ∧
      e.value.session.sessionID = s.sessionID ∧ s.expiresAtMS ≤ e.deadline

section Runs

variable [Cjson] {g : GatewayConfig}
  {C : TransitionSystem.StepCondition (GatewayPool GatewayCall HTTPResponse)
    (GatewayLabel GatewayCall)}
  {ls : List (GatewayLabel GatewayCall)} {st st' : GatewayPool GatewayCall HTTPResponse}

/-- The clock never runs back. -/
theorem clock_le_of_step {l : GatewayLabel GatewayCall}
    (hstep : (handlerPool g).system.Step st l st') : st.shared.clock ≤ st'.shared.clock := by
  cases hstep with
  | spawn => exact le_rfl
  | env hclock => cases hclock with | tick hle => exact hle
  | exec _ hexec => cases hexec <;> exact le_rfl

/-- No time that was read lies ahead. -/
theorem reading_le_clock (hrun : (handlerPool g).system.RunWhere ReadsClock ls st) {i : ℕ}
    {c : GatewayCall} {t : ℤ} (hmem : .exec i c .timeNow t ∈ ls) : t ≤ st.shared.clock := by
  induction hrun with
  | init => simp at hmem
  | step hrun hcond hstep ih =>
      rcases List.mem_append.mp hmem with hmem | hmem
      · exact (ih hmem).trans (clock_le_of_step hstep)
      · obtain rfl := List.mem_singleton.mp hmem
        have hread : t = _ := hcond
        exact hread.le.trans (clock_le_of_step hstep)

theorem reading_le_of_trace (hrun : (handlerPool g).system.RunWhere ReadsClock ls st) {i : ℕ}
    {t : ℤ} (hmem : ⟨.timeNow, t⟩ ∈ PoolSystem.trace i ls) : t ≤ st.shared.clock := by
  obtain ⟨c, hmem⟩ := PoolSystem.mem_trace.mp hmem
  exact reading_le_clock hrun hmem

/-- A stored record expires no later than its key, and its key no later than a lifetime from
now. -/
theorem expiry_le_deadline (hrun : (handlerPool g).system.RunWhere ReadsClock ls st)
    {v : GoString} {e : Entry ControlSessionJSON}
    (hstored : st.shared.redis (.controlLease v) = some e) :
    e.value.session.expiresAtMS ≤ e.deadline ∧
      e.deadline ≤ st.shared.clock + g.controlLeases.ttl := by
  suffices h : ∀ v e, st.shared.redis (.controlLease v) = some e →
      e.value.session.expiresAtMS ≤ e.deadline ∧
        e.deadline ≤ st.shared.clock + g.controlLeases.ttl from h v e hstored
  clear hstored v e
  refine hrun.invariant (P := fun _ st ↦ ∀ v e, st.shared.redis (.controlLease v) = some e →
    e.value.session.expiresAtMS ≤ e.deadline ∧
      e.deadline ≤ st.shared.clock + g.controlLeases.ttl) ?_ ?_
  · rintro ⟨w, pool⟩ ⟨hinit, -⟩ v e he
    have hempty : w.redis = Store.empty := hinit
    simp [hempty, Store.empty] at he
  · intro ls st l st' hrun ih _ hstep
    have hkeep : ∀ v e, st.shared.redis (.controlLease v) = some e →
        e.value.session.expiresAtMS ≤ e.deadline ∧
          e.deadline ≤ st'.shared.clock + g.controlLeases.ttl := fun v e he ↦
      ⟨(ih v e he).1, (ih v e he).2.trans (by have := clock_le_of_step hstep; omega)⟩
    have hstep' := hstep
    cases hstep with
    | spawn => exact hkeep
    | env hclock => cases hclock; exact hkeep
    | @exec w w' pool i c e next reply hi hexec =>
        cases hexec with
        | timeNow | newUUID | failed | issueOperatorToken | recordAudit => exact hkeep
        | @ran cmd result redis reply hdone hreports =>
            intro v e' he'
            have hasks := asksLease_of_step hrun hstep'
            rcases RedisCommand.exec_stores_lease hdone (hasks.not_overwritesLease v) he' with
              hold | ⟨indexOf, px, vehicleID, hcmd, -, hdeadline⟩ |
                ⟨e, indexOf, expiresAt, px, vehicleID, hcmd, hlive, rfl⟩
            · exact hkeep v e' hold
            · obtain ⟨rfl, -⟩ := Sigma.mk.inj hcmd
              generalize hpayload : e'.value = payload at hasks
              cases hasks with
              | safe h => cases h with | video h => cases h
              | acquire r publicKeyB64 sessionID now hcall hadmitted htrace =>
                  have hle : now ≤ w.clock := reading_le_of_trace hrun (by rw [htrace]; simp)
                  rw [hdeadline]
                  refine ⟨?_, le_rfl⟩
                  simp only [ControlSession.marshal, AcquireControlRequest.session]
                  simpa using hle
            · obtain ⟨rfl, -⟩ := Sigma.mk.inj hcmd
              cases hasks with
              | safe h => cases h with | video h => cases h
              | renew leaseOf sessionID operatorID now hnow =>
                  have hle := reading_le_of_trace hrun hnow
                  simp only [ControlSession.cjsonEncode]
                  exact ⟨by simpa using hle, le_rfl⟩

theorem Covered.step (hrun : (handlerPool g).system.RunWhere C ls st)
    {l : GatewayLabel GatewayCall} (hstep : (handlerPool g).system.Step st l st')
    {v : GoString} {s : ControlSession} (h : Covered g ls st.shared v s) :
    Covered g (ls ++ [l]) st'.shared v s := by
  have hclock := clock_le_of_step hstep
  refine ⟨h.notFar.trans (by omega), ?_⟩
  rcases h.held with hreleased | hpast | ⟨e, hlive, hsession, hdeadline⟩
  · exact .inl (hreleased.append l)
  · exact .inr (.inl (hpast.trans_le hclock))
  have hstep' := hstep
  cases hstep with
  | spawn => exact .inr (.inr ⟨e, hlive, hsession, hdeadline⟩)
  | env hev =>
      cases hev with
      | tick hle =>
          rcases Store.live_later hlive with hlater | ⟨-, hpast⟩
          · exact .inr (.inr ⟨e, hlater, hsession, hdeadline⟩)
          · exact .inr (.inl (hdeadline.trans_lt hpast))
  | @exec w w' pool i c eff next reply hi hexec =>
      cases hexec with
      | timeNow | newUUID | failed | issueOperatorToken | recordAudit =>
          exact .inr (.inr ⟨e, hlive, hsession, hdeadline⟩)
      | @ran cmd result redis reply hdone hreports =>
          have hasks := asksLease_of_step hrun hstep'
          rcases RedisCommand.exec_lease hdone (hasks.not_overwritesLease v) hlive with
            hkept | ⟨indexOf, hcmd, -⟩ | ⟨indexOf, expiresAt, px, vehicleID, hcmd, hrenewed⟩
          · exact .inr (.inr ⟨e, hkept, hsession, hdeadline⟩)
          · cases hcmd
            rw [hsession]
            have hreply := scriptAnswer_eq_some_iff.mpr (RedisCommand.reports_iff.mp hreports)
            exact .inl ⟨i, c, v, indexOf, _, reply, hreply,
              List.mem_append_right _ (List.mem_singleton_self _)⟩
          · -- the renewed key lasts a lifetime from now
            obtain ⟨rfl, -⟩ := Sigma.mk.inj hcmd
            cases hasks with
            | safe h => cases h with | video h => cases h
            | renew _ _ _ now hnow =>
                exact .inr (.inr ⟨_, hrenewed, hsession, h.notFar⟩)

/-- Whoever read a record of the lease may count on it. -/
theorem covered_of_read (hrun : (handlerPool g).system.RunWhere ReadsClock ls st) {i : ℕ}
    {c : GatewayCall} {v : GoString} {raw : ControlSessionJSON}
    (hread : .exec i c (.redis (.get (.controlLease v))) (.ok (some raw)) ∈ ls) :
    Covered g ls st.shared v raw.session := by
  induction hrun with
  | init => simp at hread
  | @step ls st st' l hrun hcond hstep ih =>
      rcases List.mem_append.mp hread with hread | hread
      · exact (ih hread).step hrun hstep
      · obtain rfl := List.mem_singleton.mp hread
        refine Covered.step hrun hstep ?_
        cases hstep with
        | exec hi hexec =>
            cases hexec with
            | ran hdone hreports =>
                cases hreports
                obtain ⟨hget, -⟩ := Prod.mk.inj (Except.ok.inj hdone)
                obtain ⟨e, hlive, rfl⟩ := Store.get_eq_some_iff.mp hget
                obtain ⟨hexpiry, hfar⟩ :=
                  expiry_le_deadline hrun (Store.live_eq_some_iff.mp hlive).1
                exact ⟨hexpiry.trans hfar, .inr (.inr ⟨e, hlive, rfl, hexpiry⟩)⟩

end Runs

end RemoteInfra.Gateway

import RemoteInfra.Gateway.HandlerLeases
import RemoteInfra.Gateway.LeaseIndex

/-!
# Released sessions do not come back

The handlers draw a new id for every session they store, so leases and indices mirror each
other, and nobody reads a session from a lease once it is released.
-/

namespace RemoteInfra.Gateway

open RemoteInfra.Library

variable [Cjson] {g : GatewayConfig}
  {C : TransitionSystem.StepCondition (GatewayPool GatewayCall HTTPResponse)
    (GatewayLabel GatewayCall)}
  {ls : List (GatewayLabel GatewayCall)} {st : GatewayPool GatewayCall HTTPResponse}

theorem drawn_of_mem (hrun : (handlerPool g).system.RunWhere C ls st) {i : ℕ} {c : GatewayCall}
    {id : GoString} (hmem : .exec i c .newUUID id ∈ ls) : id ∈ st.shared.drawn := by
  induction hrun with
  | init => simp at hmem
  | step _ _ hstep ih =>
      rcases List.mem_append.mp hmem with hold | hnew
      · have hdrawn := ih hold
        cases hstep with
        | spawn => exact hdrawn
        | env hclock => cases hclock; exact hdrawn
        | exec _ hexec =>
            cases hexec with
            | newUUID => exact List.mem_cons_of_mem _ hdrawn
            | timeNow | ran | failed | issueOperatorToken | recordAudit => exact hdrawn
      · obtain rfl := List.mem_singleton.mp hnew
        cases hstep with
        | exec _ hexec =>
            cases hexec with
            | newUUID => exact List.mem_cons_self

/-- No id is drawn by two calls. -/
theorem drawn_unique (hrun : (handlerPool g).system.RunWhere C ls st) {i j : ℕ}
    {c d : GatewayCall} {id : GoString} (hi : .exec i c .newUUID id ∈ ls)
    (hj : .exec j d .newUUID id ∈ ls) : i = j := by
  let draws (l : GatewayLabel GatewayCall) : Prop := ∃ i c, l = .exec i c .newUUID id
  have hagain : ∀ ls st l st', (handlerPool g).system.RunWhere C ls st → C ls st l →
      (handlerPool g).system.Step st l st' → draws l → ∀ l' ∈ ls, ¬ draws l' := by
    rintro ls st _ st' hrun - hstep ⟨i, c, rfl⟩ _ hmem ⟨j, d, rfl⟩
    have hdrawn := drawn_of_mem hrun hmem
    cases hstep with
    | exec _ hexec =>
        cases hexec with
        | newUUID hnew => exact hnew hdrawn
  have hsame := hrun.once hagain hi hj ⟨i, c, rfl⟩ ⟨j, d, rfl⟩
  cases hsame
  rfl

/-- The handlers keep pairs and store each session once. -/
theorem storesOnce_of_handlers (hrun : (handlerPool g).system.RunWhere C ls st) :
    (handlerPool g).system.RunWhere StoresOnce ls st := by
  refine hrun.strengthen ?_
  intro ls st l st' hrun _ hstep
  cases l with
  | spawn | env => trivial
  | exec i c e reply =>
      have hasks := asksLease_of_step hrun hstep
      cases e with
      | timeNow | newUUID | issueOperatorToken | recordAudit => trivial
      | redis cmd =>
          cases hasks with
          | renew leaseOf sessionID operatorID now hnow => exact ⟨⟨rfl, rfl⟩, by simp⟩
          | safe h =>
              cases h with
              | release => exact ⟨rfl, by simp⟩
              | video h =>
                  cases h with
                  | get => exact ⟨trivial, by simp⟩
                  | saveSession | saveViewer | dropViewer => exact ⟨⟨by simp, by simp⟩, by simp⟩
          | acquire r publicKeyB64 sessionID now hcall hadmitted htrace =>
              obtain ⟨d, hdraw⟩ : ∃ d, .exec i d .newUUID sessionID ∈ ls :=
                PoolSystem.mem_trace.mp (by rw [htrace]; simp)
              obtain ⟨before, t, t', -, -, -, hdrew⟩ := hrun.exists_step hdraw
              have hvalid : sessionID.ValidUTF8 := by
                cases hdrew with
                | exec _ hexec => cases hexec with | newUUID _ hvalid => exact hvalid
              refine ⟨⟨GoString.throughJSON_of_valid hvalid, rfl⟩, ?_⟩
              rintro _ _ _ _ _ ⟨⟩ ⟨j, c', leaseOf, payload, px, vehicleID, reply', hmem⟩
              -- whoever stored the session drew its id, so it was this call
              obtain ⟨before', u, u', hprefix, hbefore, -, hstored⟩ := hrun.exists_step hmem
              have hother := asksLease_of_step hbefore hstored
              cases hother with
              | safe h => cases h with | video h => cases h
              | acquire r' _ _ now' _ _ htrace' =>
                  obtain ⟨d', hdraw'⟩ : ∃ d, .exec j d .newUUID sessionID ∈ before' :=
                    PoolSystem.mem_trace.mp (by rw [htrace']; simp)
                  have hearlier := hprefix.subset (List.mem_append_left _ hdraw')
                  obtain rfl := drawn_unique hrun hdraw hearlier
                  have hevent := PoolSystem.mem_trace.mpr ⟨_, hmem⟩
                  rw [htrace] at hevent
                  simp at hevent

/-- A session that was stored came out of JSON. -/
theorem valid_of_origin (hrun : (handlerPool g).system.RunWhere C ls st) {v : GoString}
    {session : ControlSession} (h : LeaseOrigin ls v session) : session.sessionID.ValidUTF8 := by
  obtain ⟨j, d, indexOf, payload, px, vehicleID, reply, -, hstored, heq⟩ := h
  obtain ⟨before, t, t', -, hbefore, -, hstep⟩ := hrun.exists_step hstored
  have hasks := asksLease_of_step hbefore hstep
  rw [heq]
  cases hasks with
  | safe h => cases h with | video h => cases h
  | acquire r _ _ now => exact GoString.validUTF8_throughJSON _

theorem valid_of_released (hrun : (handlerPool g).system.RunWhere C ls st) {sessionID : GoString}
    (h : Released ls sessionID) : sessionID.ValidUTF8 := by
  obtain ⟨i, c, leaseOf, indexOf, operatorID, reply, hreply, hmem⟩ := h
  obtain ⟨before, t, t', -, hbefore, -, hstep⟩ := hrun.exists_step hmem
  cases hstep with
  | exec _ hexec =>
      obtain ⟨redis, hdone, -⟩ := hexec.release_answer hreply
      rcases releaseControlSessionScript_cases hdone with ⟨hle, -⟩ | ⟨e, -, hlive, rfl, -⟩
      · exact absurd hle (by decide)
      · exact valid_of_origin hbefore (leaseOrigin_of_stored (GatewayCall.looksFirst g) hbefore
          (Store.live_eq_some_iff.mp hlive).1)

theorem valid_of_read (hrun : (handlerPool g).system.RunWhere C ls st) {i : ℕ} {c : GatewayCall}
    {v : GoString} {raw : ControlSessionJSON}
    (hread : .exec i c (.redis (.get (.controlLease v))) (.ok (some raw)) ∈ ls) :
    raw.session.sessionID.ValidUTF8 :=
  valid_of_origin hrun (leaseOrigin_of_read (GatewayCall.looksFirst g) hrun hread)

/-- A read after the release brings another session. -/
theorem read_ne_released {before after : List (GatewayLabel GatewayCall)} {i : ℕ}
    {c : GatewayCall} {v : GoString} {raw : ControlSessionJSON}
    (hrun : (handlerPool g).system.RunWhere C
      (before ++ .exec i c (.redis (.get (.controlLease v))) (.ok (some raw)) :: after) st)
    {sessionID : GoString} (hreleased : Released before sessionID) :
    raw.session.sessionID ≠ sessionID := by
  obtain ⟨t, t', hbefore, -, hstep⟩ := hrun.split
  have hpairs := pairs_of_run (storesOnce_of_handlers hbefore)
  cases hstep with
  | exec _ hexec =>
      cases hexec with
      | ran hdone hreports =>
          cases hreports
          obtain ⟨hget, -⟩ := Prod.mk.inj (Except.ok.inj hdone)
          obtain ⟨e, hlive, rfl⟩ := Store.get_eq_some_iff.mp hget
          exact (hpairs.released sessionID hreleased).2 v e (Store.live_eq_some_iff.mp hlive).1

end RemoteInfra.Gateway

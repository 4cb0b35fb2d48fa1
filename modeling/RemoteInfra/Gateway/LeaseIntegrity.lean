import RemoteInfra.Gateway.ControlSession
import RemoteInfra.Gateway.LeaseHistory

/-!
# Integrity of the control lease

Any number of acquire, renew and release calls interleave their Redis commands, which may fail or
lose their replies, while time passes.  Every call asks only for effects that carry its own
session and operator, and every script checks both before it touches a lease.
-/

namespace RemoteInfra.Gateway

open RemoteInfra.Library Program

/-! ## Lookups -/

section Following

variable {α : Type} {asks : List GatewayEvent → Effect → Prop}
  {Q : List GatewayEvent → α → Prop} {tr : List GatewayEvent}

/-- What a lookup has gone through that found no such session. -/
inductive FailedLookup (sessionID : GoString) : List GatewayEvent → Prop
  | index {reply : Except RedisError (Option GoString)} (h : ∀ v, reply ≠ .ok (some v)) :
      FailedLookup sessionID [⟨.redis (.get (.controlSessionIndex sessionID)), reply⟩]
  | lease {v : GoString} {reply : Except RedisError (Option ControlSessionJSON)}
      (h : ∀ raw session, reply = .ok (some raw) → raw.unmarshal = some session →
        session.sessionID ≠ sessionID) :
      FailedLookup sessionID
        [⟨.redis (.get (.controlSessionIndex sessionID)), .ok (some v)⟩,
          ⟨.redis (.get (.controlLease v)), reply⟩]

theorem follows_getSessionByID_bind {sessionID : GoString}
    {f : Except ControlSessionError ControlSession → GatewayProgram α}
    (hasks : ∀ tr k, asks tr (.redis (.get k)))
    (herror : ∀ e evs, FailedLookup sessionID evs → (f (.error e)).Follows asks Q (tr ++ evs))
    (hfound : ∀ v raw session, raw.unmarshal = some session → session.sessionID = sessionID →
      (f (.ok session)).Follows asks Q (tr ++
        [⟨.redis (.get (.controlSessionIndex sessionID)), .ok (some v)⟩,
          ⟨.redis (.get (.controlLease v)), .ok (some raw)⟩])) :
    (ControlLeaseStore.getSessionByID sessionID >>= f).Follows asks Q tr := by
  refine Follows.bind (follows_runRedis_bind (hasks _ _) fun reply ↦ ?_)
  rcases reply with error | _ | v
  · exact Follows.pure (herror _ _ (.index (by simp)))
  · exact Follows.pure (herror _ _ (.index (by simp)))
  · refine Follows.bind (follows_runRedis_bind (hasks _ _) fun reply ↦ ?_)
    rcases reply with error | _ | raw
    · refine Follows.pure (Follows.pure ?_)
      simpa using herror .wrapped _ (.lease (v := v) (by simp))
    · refine Follows.pure (Follows.pure ?_)
      simpa using herror .sessionNotFound _ (.lease (v := v) (by simp))
    · dsimp only
      cases hraw : raw.unmarshal with
      | none =>
          have hnone : ∀ raw' session, Except.ok (some raw) = (.ok (some raw') :
              Except RedisError (Option ControlSessionJSON)) → raw'.unmarshal = some session →
                session.sessionID ≠ sessionID := by
            rintro raw' session ⟨⟩ hsome
            cases hraw.symm.trans hsome
          refine Follows.pure (Follows.pure ?_)
          simpa using herror .wrapped _ (.lease (v := v) hnone)
      | some session =>
          refine Follows.pure ?_
          dsimp only
          split_ifs with hid
          · have hother : ∀ raw' other, Except.ok (some raw) = (.ok (some raw') :
                Except RedisError (Option ControlSessionJSON)) → raw'.unmarshal = some other →
                  other.sessionID ≠ sessionID := by
              rintro raw' other ⟨⟩ hsome
              obtain rfl := Option.some.inj (hraw.symm.trans hsome)
              exact hid
            refine Follows.pure ?_
            simpa using herror .sessionNotFound _ (.lease (v := v) hother)
          · refine Follows.pure ?_
            simpa using hfound v raw session hraw (not_not.mp hid)

end Following

/-! ## Calls -/

/-- The calls into the control lease store. -/
inductive ControlCall
  | acquire (session : ControlSession)
  | renew (sessionID operatorID : GoString)
  | release (sessionID operatorID : GoString)

/-- A finished call: the session of a renewal, or nothing but success. -/
abbrev ControlResult := Except ControlSessionError (Option ControlSession)

def ControlCall.program (s : ControlLeaseStore) : ControlCall → GatewayProgram ControlResult
  | .acquire session => do
      match ← s.acquireControlSession session with
      | .error e => return .error e
      | .ok _ => return .ok none
  | .renew sessionID operatorID => do
      match ← s.renewControlSession sessionID operatorID with
      | .error e => return .error e
      | .ok session => return .ok (some session)
  | .release sessionID operatorID => do
      match ← ControlLeaseStore.releaseControlSession sessionID operatorID with
      | .error e => return .error e
      | .ok _ => return .ok none

def leasePool [Cjson] (s : ControlLeaseStore) :
    PoolSystem GatewayState ControlCall ℤ Effect Effect.Reply ControlResult :=
  gatewayPool (ControlCall.program s)

abbrev LeaseLabel := PoolLabel ControlCall ℤ Effect Effect.Reply

abbrev LeaseState := PoolState GatewayState ControlCall Effect Effect.Reply ControlResult

/-- The effects a call may ask for, in terms of its own arguments. -/
def ControlCall.Asks (s : ControlLeaseStore) : ControlCall → Effect → Prop
  | .acquire session, e => e = .redis (.acquireScript session.vehicleID session.sessionID
      session.marshal s.ttl session.vehicleID)
  | .renew sessionID operatorID, e => e = .timeNow ∨ (∃ k, e = .redis (.get k)) ∨
      ∃ vehicleID expiresAt, e = .redis (.renewScript vehicleID sessionID sessionID operatorID
        expiresAt s.ttl vehicleID)
  | .release sessionID operatorID, e => (∃ k, e = .redis (.get k)) ∨
      ∃ vehicleID, e = .redis (.releaseScript vehicleID sessionID sessionID operatorID)

theorem ControlCall.onlyAsks (s : ControlLeaseStore) (c : ControlCall) :
    Program.OnlyAsks (c.Asks s) (c.program s) := by
  cases c with
  | acquire session =>
      have hasks : (ControlCall.acquire session).Asks s (.redis (.acquireScript
          session.vehicleID session.sessionID session.marshal s.ttl session.vehicleID)) := rfl
      refine (ControlLeaseStore.onlyAsks_acquireControlSession hasks).bind fun result ↦ ?_
      rcases result with error | _ <;> exact Program.OnlyAsks.pure _
  | renew sessionID operatorID =>
      refine (ControlLeaseStore.onlyAsks_renewControlSession (fun k ↦ .inr (.inl ⟨k, rfl⟩))
        (.inl rfl) fun v x ↦ .inr (.inr ⟨v, x, rfl⟩)).bind fun result ↦ ?_
      rcases result with error | _ <;> exact Program.OnlyAsks.pure _
  | release sessionID operatorID =>
      refine (ControlLeaseStore.onlyAsks_releaseControlSession (fun k ↦ .inl ⟨k, rfl⟩)
        fun v ↦ .inr ⟨v, rfl⟩).bind fun result ↦ ?_
      rcases result with error | _ <;> exact Program.OnlyAsks.pure _

/-- Acquire calls carry a session id and an operator id that JSON keeps. -/
def ValidIDs : TransitionSystem.StepCondition
    (PoolState GatewayState ControlCall Effect Effect.Reply ControlResult)
    (PoolLabel ControlCall ℤ Effect Effect.Reply)
  | _, _, .spawn (.acquire session) => session.sessionID.ValidUTF8 ∧ session.operatorID.ValidUTF8
  | _, _, _ => True

theorem validIDs_of_spawn [Cjson] {s : ControlLeaseStore}
    {ls : List (PoolLabel ControlCall ℤ Effect Effect.Reply)}
    {st : PoolState GatewayState ControlCall Effect Effect.Reply ControlResult}
    (hrun : (leasePool s).system.RunWhere ValidIDs ls st) {session : ControlSession}
    (hmem : PoolLabel.spawn (ControlCall.acquire session) ∈ ls) :
    session.sessionID.ValidUTF8 ∧ session.operatorID.ValidUTF8 := by
  induction hrun with
  | init => simp at hmem
  | step _ hcond _ ih =>
      rcases List.mem_append.mp hmem with hmem | hmem
      · exact ih hmem
      · obtain rfl := List.mem_singleton.mp hmem
        exact hcond

theorem ControlCall.Asks.not_overwritesLease {s : ControlLeaseStore} {c : ControlCall}
    {cmd : RedisCommand} (h : c.Asks s (.redis cmd)) (v : GoString) :
    ¬ cmd.OverwritesLease v := by
  rintro (⟨payload, px, rfl⟩ | rfl) <;> cases c <;> simp [ControlCall.Asks] at h

theorem ControlCall.looksFirst (s : ControlLeaseStore) :
    LooksFirstAlways (ControlCall.program s) := by
  refine fun c ↦ (c.onlyAsks s).imp ?_
  rintro e he cmd v rfl
  exact he.not_overwritesLease v

/-- Every stored lease was stored by an acquire call for that vehicle, with that call's
session and operator. -/
theorem acquired_of_stored [Cjson] {s : ControlLeaseStore}
    {C : TransitionSystem.StepCondition
      (PoolState GatewayState ControlCall Effect Effect.Reply ControlResult)
      (PoolLabel ControlCall ℤ Effect Effect.Reply)}
    {ls : List (PoolLabel ControlCall ℤ Effect Effect.Reply)}
    {st : PoolState GatewayState ControlCall Effect Effect.Reply ControlResult}
    (hrun : (leasePool s).system.RunWhere C ls st) {v : GoString}
    {e : Entry ControlSessionJSON} (hstored : st.shared.redis (.controlLease v) = some e) :
    ∃ session, PoolLabel.spawn (ControlCall.acquire session) ∈ ls ∧ session.vehicleID = v ∧
      session.marshal.session.sessionID = e.value.session.sessionID ∧
      session.marshal.session.operatorID = e.value.session.operatorID := by
  obtain ⟨i, c, indexOf, payload, px, vehicleID, reply, -, hmem, heq⟩ :=
    leaseOrigin_of_stored (ControlCall.looksFirst s) hrun hstored
  obtain ⟨hspawn, before, -, hasks⟩ := PoolSystem.asks_of_mem
    (PoolSystem.follows_of_onlyAsks (S := leasePool s) (ControlCall.onlyAsks s)) hrun hmem
  cases c with
  | acquire session =>
      obtain ⟨rfl, -, rfl, -, -⟩ := RedisCommand.acquireScript.inj (Effect.redis.inj hasks)
      exact ⟨session, hspawn, rfl, by rw [heq], by rw [heq]⟩
  | renew | release => simp [ControlCall.Asks] at hasks

/-- How a lease `e` of vehicle `v` can come out of a step `l` into `w`. -/
inductive LeaseFate [Cjson] (s : ControlLeaseStore) (v : GoString) (e : Entry ControlSessionJSON)
    (l : PoolLabel ControlCall ℤ Effect Effect.Reply) (w : GatewayState) : Prop
  | kept (hlive : w.redis.live w.clock (.controlLease v) = some e)
  | expired (t : ℤ) (hl : l = .env t) (hdeadline : e.deadline < t)
      (hgone : w.redis.live w.clock (.controlLease v) = none)
  | released (i : ℕ) (reply : Except RedisError ℤ) (hreply : scriptAnswer reply = some 1)
      (hl : l = .exec i (.release e.value.session.sessionID e.value.session.operatorID)
        (.redis (.releaseScript v e.value.session.sessionID e.value.session.sessionID
          e.value.session.operatorID)) reply)
      (hgone : w.redis.live w.clock (.controlLease v) = none)
  | renewed (i : ℕ) (expiresAt : ℤ) (reply : Except RedisError ℤ)
      (hreply : scriptAnswer reply = some 1)
      (hl : l = .exec i (.renew e.value.session.sessionID e.value.session.operatorID)
        (.redis (.renewScript v e.value.session.sessionID e.value.session.sessionID
          e.value.session.operatorID expiresAt s.ttl v)) reply)
      (hlive : w.redis.live w.clock (.controlLease v) = some
        ⟨({ e.value.session with expiresAtMS := expiresAt } : ControlSession).cjsonEncode,
          w.clock + s.ttl⟩)

theorem leaseFate_of_step [Cjson] {s : ControlLeaseStore}
    {C : TransitionSystem.StepCondition
      (PoolState GatewayState ControlCall Effect Effect.Reply ControlResult)
      (PoolLabel ControlCall ℤ Effect Effect.Reply)}
    {ls : List (PoolLabel ControlCall ℤ Effect Effect.Reply)}
    {st st' : PoolState GatewayState ControlCall Effect Effect.Reply ControlResult}
    {l : PoolLabel ControlCall ℤ Effect Effect.Reply}
    (hrun : (leasePool s).system.RunWhere C ls st) (hstep : (leasePool s).system.Step st l st')
    {v : GoString} {e : Entry ControlSessionJSON}
    (hlive : st.shared.redis.live st.shared.clock (.controlLease v) = some e) :
    LeaseFate s v e l st'.shared := by
  have hstep' := hstep
  cases hstep with
  | spawn => exact .kept hlive
  | env hclock =>
      cases hclock with
      | tick hle =>
          rcases Store.live_later hlive with hlater | ⟨hgone, hdeadline⟩
          · exact .kept hlater
          · exact .expired _ rfl hdeadline hgone
  | @exec w w' pool i c e next reply hi hexec =>
      cases hexec with
      | timeNow | newUUID | failed | issueOperatorToken | recordAudit => exact .kept hlive
      | @ran cmd result redis reply hdone hreports =>
          have hasks := PoolSystem.asks_of_step (ControlCall.onlyAsks s) hrun hstep'
          rcases RedisCommand.exec_lease hdone (hasks.not_overwritesLease v) hlive with
            hkept | ⟨indexOf, hcmd, hgone⟩ |
              ⟨indexOf, expiresAt, px, vehicleID, hcmd, hrenewed⟩
          · exact .kept hkept
          · cases hcmd
            have hreply := scriptAnswer_eq_some_iff.mpr (RedisCommand.reports_iff.mp hreports)
            cases c with
            | release sessionID operatorID =>
                obtain ⟨vehicleID, hscript⟩ : ∃ vehicleID, _ := hasks.resolve_left (by simp)
                obtain ⟨rfl, rfl, rfl, rfl⟩ :=
                  RedisCommand.releaseScript.inj (Effect.redis.inj hscript)
                exact .released i reply hreply rfl hgone
            | acquire | renew => simp [ControlCall.Asks] at hasks
          · cases hcmd
            have hreply := scriptAnswer_eq_some_iff.mpr (RedisCommand.reports_iff.mp hreports)
            cases c with
            | renew sessionID operatorID =>
                simp only [ControlCall.Asks, reduceCtorEq, Effect.redis.injEq, exists_false,
                  RedisCommand.renewScript.injEq, false_or] at hasks
                obtain ⟨vehicleID, expiresAt, rfl, rfl, rfl, rfl, rfl, rfl, rfl⟩ := hasks
                exact .renewed i expiresAt reply hreply rfl hrenewed
            | acquire | release => simp [ControlCall.Asks] at hasks

/-- What an acquire call makes of the script's reply. -/
def acquireResult : Except RedisError ℤ → ControlResult
  | .error _ => .error .wrapped
  | .ok result => if result = 0 then .error .leaseHeld else .ok none

theorem ControlCall.program_acquire (s : ControlLeaseStore) (session : ControlSession) :
    (ControlCall.acquire session).program s =
      .call (.redis (.acquireScript session.vehicleID session.sessionID session.marshal s.ttl
        session.vehicleID)) fun reply ↦ .pure (acquireResult reply) := by
  refine congrArg (Program.call _) (funext fun reply ↦ ?_)
  rcases reply with error | result
  · rfl
  · change (match (if result = 0 then Except.error ControlSessionError.leaseHeld else .ok ()) with
      | .error e => (.pure (.error e) : GatewayProgram ControlResult)
      | .ok _ => .pure (.ok none)) = .pure (if result = 0 then .error .leaseHeld else .ok none)
    split_ifs <;> rfl

/-- An acquire call has its one command before it, or it has ended. -/
theorem acquire_whole_or_ended [Cjson] {s : ControlLeaseStore}
    {C : TransitionSystem.StepCondition
      (PoolState GatewayState ControlCall Effect Effect.Reply ControlResult)
      (PoolLabel ControlCall ℤ Effect Effect.Reply)}
    {ls : List (PoolLabel ControlCall ℤ Effect Effect.Reply)}
    {st : PoolState GatewayState ControlCall Effect Effect.Reply ControlResult}
    (hrun : (leasePool s).system.RunWhere C ls st) {i : ℕ} {session : ControlSession}
    {p : GatewayProgram ControlResult} (hi : st.pool[i]? = some (.acquire session, p)) :
    p = (ControlCall.acquire session).program s ∨ ∃ result, p = .pure result := by
  have htraced := PoolSystem.traced_of_run (S := leasePool s)
    (P := fun c _ p ↦ ∀ session, c = .acquire session →
      p = (ControlCall.acquire session).program s ∨ ∃ result, p = .pure result)
    (fun c session hc ↦ .inl (by rw [hc]; rfl)) ?_ hrun
  · exact htraced.2 i _ p hi session rfl
  · rintro c tr e next reply hcall session rfl
    rcases hcall session rfl with hwhole | ⟨result, hended⟩
    · rw [ControlCall.program_acquire] at hwhole
      obtain ⟨rfl, hnext⟩ := Program.call.inj hwhole
      obtain rfl := eq_of_heq hnext
      exact .inr ⟨_, rfl⟩
    · cases hended

/-- Whatever comes of its command, an acquire call changes nothing while the lease is held, and
ends with an error. -/
theorem acquire_refused [Cjson] {s : ControlLeaseStore}
    {C : TransitionSystem.StepCondition
      (PoolState GatewayState ControlCall Effect Effect.Reply ControlResult)
      (PoolLabel ControlCall ℤ Effect Effect.Reply)}
    {ls : List (PoolLabel ControlCall ℤ Effect Effect.Reply)}
    {st st' : PoolState GatewayState ControlCall Effect Effect.Reply ControlResult} {i : ℕ}
    {session : ControlSession} {effect : Effect} {reply : effect.Reply}
    (hrun : (leasePool s).system.RunWhere C ls st)
    (hstep : (leasePool s).system.Step st (.exec i (.acquire session) effect reply) st')
    {e : Entry ControlSessionJSON}
    (hlive : st.shared.redis.live st.shared.clock (.controlLease session.vehicleID) = some e) :
    st'.shared.redis = st.shared.redis ∧
      ∃ error, st'.pool[i]? = some (.acquire session, .pure (.error error)) := by
  cases hstep with
  | @exec w w' pool _ _ _ next _ hi hexec =>
      have hlt : i < pool.length := (List.getElem?_eq_some_iff.mp hi).1
      rcases acquire_whole_or_ended hrun hi with hwhole | ⟨result, hended⟩
      · rw [ControlCall.program_acquire] at hwhole
        obtain ⟨rfl, hnext⟩ := Program.call.inj hwhole
        obtain rfl := eq_of_heq hnext
        cases hexec with
        | failed => exact ⟨rfl, .wrapped, List.getElem?_set_self hlt⟩
        | ran hdone hreports =>
            rcases acquireControlSessionScript_cases hdone with ⟨rfl, rfl, -⟩ | ⟨-, hfree, -⟩
            · refine ⟨rfl, ?_⟩
              cases hreports with
              | heard => exact ⟨.leaseHeld, List.getElem?_set_self hlt⟩
              | lost => exact ⟨.wrapped, List.getElem?_set_self hlt⟩
            · cases hfree.symm.trans hlive
      · cases hended

/-- A lease that session `s` of operator `o` holds was stored by an acquire call of that
session and operator, and leaves only by expiry, by that operator's release of that session,
or by that operator's renewal of it, which moves `expires_at_ms` and the deadline alone.
While it is held every acquire of the vehicle is refused. -/
theorem lease_changes_only_by_holder [Cjson] (s : ControlLeaseStore)
    {ls : List (PoolLabel ControlCall ℤ Effect Effect.Reply)}
    {st : PoolState GatewayState ControlCall Effect Effect.Reply ControlResult}
    (hrun : (leasePool s).system.RunWhere ValidIDs ls st)
    {v : GoString} {e : Entry ControlSessionJSON}
    (hlive : st.shared.redis.live st.shared.clock (.controlLease v) = some e) :
    (∃ session, PoolLabel.spawn (ControlCall.acquire session) ∈ ls ∧ session.vehicleID = v ∧
      session.sessionID = e.value.session.sessionID ∧
      session.operatorID = e.value.session.operatorID) ∧
    ∀ l st', ValidIDs ls st l → (leasePool s).system.Step st l st' →
      LeaseFate s v e l st'.shared ∧
        (∀ i session indexOf payload px vehicleID reply n,
          l = .exec i (.acquire session)
            (.redis (.acquireScript v indexOf payload px vehicleID)) reply →
          scriptAnswer reply = some n → n = 0) ∧
        ∀ i session effect reply, l = .exec i (.acquire session) effect reply →
          session.vehicleID = v → st'.shared.redis = st.shared.redis ∧
            ∃ error, ∀ after st'', ((leasePool s).system.startingAt st').Run after st'' →
              st''.pool[i]? = some (.acquire session, .pure (.error error)) := by
  refine ⟨?_, fun l st' _ hstep ↦ ⟨leaseFate_of_step hrun hstep hlive, ?_, ?_⟩⟩
  · obtain ⟨session, hmem, hv, hsid, hop⟩ :=
      acquired_of_stored hrun (Store.live_eq_some_iff.mp hlive).1
    obtain ⟨hsession, hoperator⟩ := validIDs_of_spawn hrun hmem
    refine ⟨session, hmem, hv, ?_, ?_⟩
    · exact (GoString.throughJSON_of_valid hsession).symm.trans hsid
    · exact (GoString.throughJSON_of_valid hoperator).symm.trans hop
  · rintro i session indexOf payload px vehicleID reply n rfl hreply
    cases hstep with
    | exec hi hexec =>
        obtain ⟨redis, hdone, -⟩ := hexec.acquire_answer hreply
        rcases acquireControlSessionScript_cases hdone with ⟨rfl, -⟩ | ⟨-, hfree, -⟩
        · rfl
        · cases hfree.symm.trans hlive
  · rintro i session effect reply rfl rfl
    obtain ⟨hredis, error, hended⟩ := acquire_refused hrun hstep hlive
    exact ⟨hredis, error, fun after st'' hafter ↦ PoolSystem.ended_of_run hafter hended⟩

section Witness

def aliceSession : ControlSession where
  sessionID := GoString.ofString "s1"
  vehicleID := GoString.ofString "car-001"
  operatorID := GoString.ofString "alice"
  publicKeyB64 := []
  status := .active
  createdAtMS := 0
  expiresAtMS := 30000

def bobSession : ControlSession :=
  { aliceSession with
    sessionID := GoString.ofString "s2"
    operatorID := GoString.ofString "bob" }

abbrev LeaseTurn := Turn ControlCall ℤ Answer

def leasePlayer [Cjson] : (leasePool ⟨30000⟩).Player Answer :=
  gatewayPlayer (ControlCall.program ⟨30000⟩)

def noLeases : LeaseState := ⟨⟨0, Store.empty, []⟩, []⟩

def renewalByAlice : ControlCall := .renew aliceSession.sessionID aliceSession.operatorID

/-- Alice renews her lease at 10000; then bob asks for it, and alice is about to release it and
to renew it again. -/
def aliceAndBob : List LeaseTurn :=
  [.start (.acquire aliceSession), .next 0 .served, .pass 10000, .start renewalByAlice] ++
    List.replicate 4 (.next 1 .served) ++ [.start (.acquire bobSession)] ++
    [.start (.release aliceSession.sessionID aliceSession.operatorID)] ++
    List.replicate 2 (.next 3 .served) ++ [.start renewalByAlice] ++
    List.replicate 3 (.next 4 .served)

theorem aliceAndBob_run [Cjson] {ls : List LeaseLabel} {st : LeaseState}
    (hplay : leasePlayer.play [] noLeases aliceAndBob = some (ls, st)) :
    (leasePool ⟨30000⟩).system.RunWhere ValidIDs ls st := by
  have hinit : (leasePool ⟨30000⟩).system.RunWhere ValidIDs [] noLeases := .init ⟨rfl, rfl⟩
  have hvalid : ∀ text, (GoString.ofString text).ValidUTF8 := GoString.validUTF8_ofString
  have hstarts : ∀ c, Turn.start c ∈ aliceAndBob → ∀ session, c = .acquire session →
      session.sessionID.ValidUTF8 ∧ session.operatorID.ValidUTF8 := by
    rintro c hc session rfl
    have hwho : session = aliceSession ∨ session = bobSession := by
      simpa [aliceAndBob, renewalByAlice, List.mem_replicate] using hc
    rcases hwho with rfl | rfl <;> exact ⟨hvalid _, hvalid _⟩
  refine leasePlayer.run_of_play hinit hplay (leasePlayer.keeps_of_starts ?_ _ _ hstarts)
  intro ls st l h
  rcases l with (session | _ | _) | _ | _
  · exact h _ rfl session rfl
  all_goals trivial

theorem aliceAndBob_turns :
    letI := Cjson.fourteenDigits
    ∃ ls st, leasePlayer.play [] noLeases aliceAndBob = some (ls, st) ∧
      (∃ e, st.shared.redis.live 10000 (.controlLease aliceSession.vehicleID) = some e) ∧
      st.shared.clock = 10000 ∧
      (∃ l st', leasePlayer.turn st (.next 2 .served) = some (l, st') ∧ ValidIDs ls st l ∧
        ∃ effect reply, l = .exec 2 (.acquire bobSession) effect reply) ∧
      (∃ l st', leasePlayer.turn st (.next 3 .lost) = some (l, st') ∧ ValidIDs ls st l) ∧
      (∃ l st', leasePlayer.turn st (.next 4 .served) = some (l, st') ∧ ValidIDs ls st l) ∧
      ∃ l st', leasePlayer.turn st (.pass 50000) = some (l, st') ∧ ValidIDs ls st l :=
  ⟨_, _, rfl, ⟨_, rfl⟩, rfl, ⟨_, _, rfl, trivial, _, _, rfl⟩, ⟨_, _, rfl, trivial⟩,
    ⟨_, _, rfl, trivial⟩, _, _, rfl, trivial⟩

/-- The lease outlasts bob's call, which fails for good; the release ends it, though the reply is
lost, and the renewal moves it, and time ends it. -/
theorem lease_changes_only_by_holder_alice :
    letI := Cjson.fourteenDigits
    ∃ ls st e, leasePlayer.play [] noLeases aliceAndBob = some (ls, st) ∧
      st.shared.redis.live 10000 (.controlLease aliceSession.vehicleID) = some e ∧
      (∀ turn ∈ [.next 2 .served, .next 3 .lost, .next 4 .served, .pass 50000],
        ∃ l st', leasePlayer.turn st turn = some (l, st') ∧
          LeaseFate ⟨30000⟩ aliceSession.vehicleID e l st'.shared) ∧
      ∃ l st' error, leasePlayer.turn st (.next 2 .served) = some (l, st') ∧
        ∀ after st'', ((leasePool ⟨30000⟩).system.startingAt st').Run after st'' →
          st''.pool[2]? = some (.acquire bobSession, .pure (.error error)) := by
  let := Cjson.fourteenDigits
  obtain ⟨ls, st, hplay, ⟨e, hlive⟩, hclock, ⟨l, st', hbob, hspawn, effect, reply, rfl⟩, hrelease,
    hrenewal, hpass⟩ := aliceAndBob_turns
  have hheld : st.shared.redis.live st.shared.clock (.controlLease aliceSession.vehicleID) =
      some e := by rw [hclock]; exact hlive
  obtain ⟨-, hsteps⟩ := lease_changes_only_by_holder ⟨30000⟩ (aliceAndBob_run hplay) hheld
  refine ⟨ls, st, e, hplay, hlive, fun turn hmem ↦ ?_, ?_⟩
  · have hturn : ∃ l st', leasePlayer.turn st turn = some (l, st') ∧ ValidIDs ls st l := by
      simp only [List.mem_cons, List.not_mem_nil, or_false] at hmem
      rcases hmem with rfl | rfl | rfl | rfl
      · exact ⟨_, _, hbob, hspawn⟩
      · exact hrelease
      · exact hrenewal
      · exact hpass
    obtain ⟨l, st', hturn, hvalid⟩ := hturn
    exact ⟨l, st', hturn, (hsteps l st' hvalid (leasePlayer.turn_sound hturn)).1⟩
  · obtain ⟨-, -, hrefused⟩ := hsteps _ st' hspawn (leasePlayer.turn_sound hbob)
    obtain ⟨-, error, hended⟩ := hrefused _ _ _ _ rfl rfl
    exact ⟨_, st', error, hbob, hended⟩

end Witness

end RemoteInfra.Gateway
